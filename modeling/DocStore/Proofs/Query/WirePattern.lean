import DocStore.Proofs.Query.ElementMatch

/-! # Patterns on the wire

A pattern on the wire is a text with the options that stand beside it, so options mean something
only in the object of their pattern. Of several patterns that are merged into one body the texts are
kept apart, but the options are not: the first that are given go to the first pattern, and all
others apply to none.
-/

namespace DocStore.Query

open Members

/-- A pattern with the options in the same object. -/
structure WirePattern where
  text : Json
  options : Option Json
  deriving DecidableEq, Repr

namespace WirePattern

/-- The pattern without its options. -/
def bare (pattern : WirePattern) : WirePattern :=
  { pattern with options := none }

/-- The object that a pattern compiles to. -/
def wire (pattern : WirePattern) : Json :=
  .object (("$regex", pattern.text) ::
    (pattern.options.map fun options => ("$options", options)).toList)

end WirePattern

/-- The pattern of an object by itself. -/
def ownPattern (members : Members) : Multiset WirePattern :=
  match members.find? "$regex" with
  | some text => {⟨text, members.find? "$options"⟩}
  | none => 0

/-- A key that holds a list of bodies. -/
def holdsBodies (key : String) : Bool :=
  Connective.all.any fun op => op.token == key

/-- A key that holds a body or the operators on a field. -/
def holdsBody (key : String) : Bool :=
  key == "$elemMatch" || !startsWithDollar key

mutual

/-- The patterns of a body, at every depth. Literal operands are not looked into, whatever they
    look like. -/
def patternsOf : Json → Multiset WirePattern
  | .object members => ownPattern members + memberPatterns members
  | _ => 0
termination_by structural body => body

/-- The patterns below the members of a body. -/
def memberPatterns : List (String × Json) → Multiset WirePattern
  | [] => 0
  | (key, value) :: rest =>
      (if holdsBodies key then listPatterns value
        else if holdsBody key then patternsOf value
        else 0) + memberPatterns rest
termination_by structural members => members

/-- The patterns of a list of bodies. -/
def listPatterns : Json → Multiset WirePattern
  | .array items => itemPatterns items
  | _ => 0
termination_by structural list => list

/-- The patterns of several bodies. -/
def itemPatterns : List Json → Multiset WirePattern
  | [] => 0
  | item :: rest => patternsOf item + itemPatterns rest
termination_by structural items => items

end

/-- The patterns below one member. -/
def patternsUnder (key : String) (value : Json) : Multiset WirePattern :=
  if holdsBodies key then listPatterns value
  else if holdsBody key then patternsOf value
  else 0

theorem memberPatterns_eq_sum (members : Members) :
    memberPatterns members = (members.map fun member => patternsUnder member.1 member.2).sum := by
  induction members with
  | nil => rfl
  | cons member rest ih => rw [memberPatterns, ih, List.map_cons, List.sum_cons, patternsUnder]

theorem memberPatterns_insert_new {body : Members} {key : String}
    (absent : body.find? key = none) (value : Json) :
    memberPatterns (body.insert key value) = memberPatterns body + patternsUnder key value := by
  rw [memberPatterns_eq_sum, memberPatterns_eq_sum, sum_insert_of_absent absent]

theorem memberPatterns_insert_present {body : Members} {key : String} {old value : Json}
    {added : Multiset WirePattern} (present : body.find? key = some old)
    (grown : patternsUnder key value = patternsUnder key old + added) :
    memberPatterns (body.insert key value) = memberPatterns body + added := by
  rw [memberPatterns_eq_sum, memberPatterns_eq_sum, sum_insert_of_find? present grown]

theorem itemPatterns_append (left right : List Json) :
    itemPatterns (left ++ right) = itemPatterns left + itemPatterns right := by
  induction left with
  | nil => simp [itemPatterns]
  | cons item rest ih => rw [List.cons_append, itemPatterns, itemPatterns, ih, add_assoc]

theorem ownPattern_of_absent {members : Members} (absent : members.find? "$regex" = none) :
    ownPattern members = 0 := by
  rw [ownPattern, absent]

theorem ownPattern_of_find? {members : Members} {text : Json}
    (found : members.find? "$regex" = some text) :
    ownPattern members = {⟨text, members.find? "$options"⟩} := by
  rw [ownPattern, found]

/-- The keys of patterns. -/
def IsPatternKey (key : String) : Prop :=
  key = "$regex" ∨ key = "$options"

instance : DecidablePred IsPatternKey := fun key =>
  inferInstanceAs (Decidable (key = "$regex" ∨ key = "$options"))

theorem patternsOf_single {key : String} (apart : ¬IsPatternKey key) (value : Json) :
    patternsOf (.single key value) = patternsUnder key value := by
  have absent : find? [(key, value)] "$regex" = none := by
    rw [find?_cons_of_ne fun same => apart (.inl same)]
    rfl
  rw [Json.single, patternsOf, ownPattern_of_absent absent, zero_add, memberPatterns_eq_sum,
    List.map_singleton, List.sum_singleton]

theorem patternsOf_wire (pattern : WirePattern) : patternsOf pattern.wire = {pattern} := by
  obtain ⟨text, options⟩ := pattern
  cases options <;> rfl

theorem patternsUnder_patternKey {key : String} (isPart : IsPatternKey key) (value : Json) :
    patternsUnder key value = 0 := by
  obtain rfl | rfl := isPart <;> rfl

theorem patternsUnder_conjunction (items : List Json) :
    patternsUnder conjunctionKey (.array items) = itemPatterns items := rfl

theorem patternsUnder_field {name : String} (plain : startsWithDollar name = false) (value : Json) :
    patternsUnder name value = patternsOf value := by
  have notList : ¬holdsBodies name := by
    simp only [holdsBodies, List.any_eq_true, beq_iff_eq, not_exists, not_and]
    rintro op - rfl
    cases op <;> cases plain
  rw [patternsUnder, if_neg notList, if_pos (by simp [holdsBody, plain])]

/-- Options in an operator map stand beside a pattern. -/
def IsComplete (entries : Members) : Prop :=
  entries.find? "$regex" = none → entries.find? "$options" = none

theorem IsComplete.append {existing incoming : Members} (complete : IsComplete existing)
    (completeIncoming : IsComplete incoming) : IsComplete (existing ++ incoming) := by
  intro absent
  rw [find?_append, Option.or_eq_none_iff] at absent
  rw [find?_append, complete absent.1, completeIncoming absent.2, Option.none_or]

/-- An operator map that grows by other operators keeps the patterns of both parts. -/
theorem patternsOf_append {existing incoming : Members} (complete : IsComplete existing)
    (completeIncoming : IsComplete incoming)
    (disjoint : ∀ key ∈ keys incoming, key ∉ keys existing) :
    patternsOf (.object (existing ++ incoming)) =
      patternsOf (.object existing) + patternsOf (.object incoming) := by
  have own : ownPattern (existing ++ incoming) = ownPattern existing + ownPattern incoming := by
    cases found : existing.find? "$regex" with
    | none =>
        rw [ownPattern_of_absent found, zero_add, ownPattern, ownPattern, find?_append,
          find?_append, found, complete found, Option.none_or, Option.none_or]
    | some text =>
        have absent : incoming.find? "$regex" = none := by
          refine find?_eq_none_iff.mpr fun mem => disjoint _ mem ?_
          exact mem_keys_iff.mpr ⟨text, found⟩
        have foundAppended : find? (existing ++ incoming) "$regex" = some text := by
          rw [find?_append, found, Option.some_or]
        rw [ownPattern_of_absent absent, add_zero, ownPattern_of_find? foundAppended,
          ownPattern_of_find? found, find?_append, completeIncoming absent, Option.or_none]
  simp only [patternsOf, own, memberPatterns_eq_sum, List.map_append, List.sum_append]
  abel

/-! ## Merging -/

/-- What merging relies on for a member that is no part of a pattern on the element. -/
structure IsOrdinary (key : String) (value : Json) : Prop extends IsMergeable key value where
  apart : ¬IsPatternKey key
  complete : startsWithDollar key = false → ∀ entries, value = .object entries → IsComplete entries

/-- An operator that is neither a part of a pattern nor holds bodies. -/
def IsLeafOperator (operator : String) : Prop :=
  startsWithDollar operator = true ∧ ¬IsPatternKey operator ∧ ¬holdsBodies operator ∧
    operator ≠ "$elemMatch"

instance : DecidablePred IsLeafOperator := fun operator =>
  inferInstanceAs (Decidable (startsWithDollar operator = true ∧ ¬IsPatternKey operator ∧
    ¬holdsBodies operator ∧ operator ≠ "$elemMatch"))

theorem marked_isOrdinary {operator : String} (marked : startsWithDollar operator = true)
    (notConjunction : operator ≠ conjunctionKey) (apart : ¬IsPatternKey operator) (operand : Json) :
    IsOrdinary operator operand where
  toIsMergeable := isMergeable_operator marked notConjunction operand
  apart := apart
  complete := fun plain => by
    rw [marked] at plain
    cases plain

theorem field_isOrdinary {name : String} (plain : startsWithDollar name = false)
    {entries : Members} (distinct : (keys entries).Nodup) (complete : IsComplete entries) :
    IsOrdinary name (.object entries) where
  isList := by
    rintro rfl
    cases plain
  distinct := fun _ _ same => by
    cases same
    exact distinct
  apart := by
    rintro (rfl | rfl) <;> cases plain
  complete := fun _ _ same => by
    cases same
    exact complete

namespace IsLeafOperator

variable {operator : String}

theorem isOrdinary (leaf : IsLeafOperator operator) (operand : Json) :
    IsOrdinary operator operand := by
  obtain ⟨marked, apart, noList, -⟩ := leaf
  refine marked_isOrdinary marked ?_ apart operand
  rintro rfl
  exact noList (by decide)

theorem patternsUnder (leaf : IsLeafOperator operator) (operand : Json) :
    patternsUnder operator operand = 0 := by
  obtain ⟨marked, -, noList, different⟩ := leaf
  rw [Query.patternsUnder, if_neg noList, if_neg (by simp [holdsBody, marked, different])]

end IsLeafOperator

theorem isComplete_single {operator : String} (apart : ¬IsPatternKey operator) (operand : Json) :
    IsComplete [(operator, operand)] :=
  fun _ => find?_cons_of_ne (fun same => apart (.inr same)) operand []

theorem patternsOf_of_leaves {entries : Members}
    (leaves : ∀ key ∈ keys entries, IsLeafOperator key) : patternsOf (.object entries) = 0 := by
  have absent : entries.find? "$regex" = none :=
    find?_eq_none_iff.mpr fun mem => (leaves _ mem).2.1 (.inl rfl)
  have nothing : ∀ entry ∈ entries, patternsUnder entry.1 entry.2 = 0 := fun entry mem =>
    (leaves entry.1 (List.mem_map_of_mem mem)).patternsUnder entry.2
  rw [patternsOf, ownPattern_of_absent absent, zero_add, memberPatterns_eq_sum,
    List.map_congr_left nothing, List.map_const', List.sum_replicate, nsmul_zero]

theorem spatial_isOrdinary (op : SpatialRelation) (shape : Json)
    (minDistance maxDistance : Option Operand) :
    let members := ("$geometry", shape) ::
      (distanceBounds minDistance maxDistance).map fun bound => (bound.1, bound.2.exprForm)
    IsOrdinary op.token (.object members) ∧ patternsUnder op.token (.object members) = 0 := by
  intro members
  have among : ∀ key ∈ keys members, key ∈ ["$geometry", "$minDistance", "$maxDistance"] := by
    cases minDistance <;> cases maxDistance <;> simp [members, keys, distanceBounds]
  have allLeaves : ∀ key ∈ ["$geometry", "$minDistance", "$maxDistance"], IsLeafOperator key := by
    decide
  have leaves : ∀ key ∈ keys members, IsLeafOperator key := fun key mem =>
    allLeaves key (among key mem)
  constructor
  · exact {
      toIsMergeable := spatial_isMergeable op shape minDistance maxDistance
      apart := by cases op <;> decide
      complete := fun _ _ same _ => by
        cases same
        exact find?_eq_none_iff.mpr fun mem => (leaves _ mem).2.1 (.inr rfl) }
  · cases op with
    | near => exact (patternsUnder_field (by decide) _).trans (patternsOf_of_leaves leaves)
    | intersects | within => exact IsLeafOperator.patternsUnder (by decide) _

/-- A member with its patterns keeps them when it is put under a field. -/
theorem exists_member_underField {field : Option String}
    (named : ∀ name ∈ field, startsWithDollar name = false) {operator : String} {operand : Json}
    (ordinary : IsOrdinary operator operand) :
    ∃ key value, underField field (.single operator operand) = .single key value ∧
      IsOrdinary key value ∧ patternsUnder key value = patternsUnder operator operand := by
  cases field with
  | none => exact ⟨operator, operand, rfl, ordinary, rfl⟩
  | some name =>
      have plain := named name rfl
      have isField : IsOrdinary name (.single operator operand) :=
        field_isOrdinary plain (by simp [keys]) (isComplete_single ordinary.apart operand)
      refine ⟨name, _, rfl, isField, ?_⟩
      rw [patternsUnder_field plain, patternsOf_single ordinary.apart]

theorem connective_isOrdinary (op : Connective) (children : List Json) :
    IsOrdinary op.token (.array children) where
  toIsMergeable := connective_isMergeable op children
  apart := by cases op <;> decide
  complete := fun _ _ same => by cases same

theorem patternsUnder_connective (op : Connective) (children : List Json) :
    patternsUnder op.token (.array children) = itemPatterns children := by
  cases op <;> rfl

/-- The patterns of several that are merged into one body, as they come to stand there: each has
    its text, and the first has the first options. -/
def mergedPatterns : List WirePattern → List WirePattern
  | [] => []
  | first :: later =>
      ⟨first.text, (first :: later).findSome? WirePattern.options⟩ :: later.map WirePattern.bare

/-- What merging relies on for a body. -/
structure IsSound (body : Members) : Prop where
  listed : HasConjunctList body
  complete : ∀ name entries, startsWithDollar name = false →
    body.find? name = some (.object entries) → IsComplete entries

theorem IsSound.insert {body : Members} (sound : IsSound body) {key : String} {value : Json}
    (isList : key = conjunctionKey → ∃ items, value = .array items)
    (complete : startsWithDollar key = false → ∀ entries, value = .object entries →
      IsComplete entries) :
    IsSound (body.insert key value) where
  listed := sound.listed.insert isList
  complete := by
    intro name entries plain found
    by_cases same : key = name
    · subst same
      rw [find?_insert_self] at found
      exact complete plain entries (Option.some.inj found)
    · rw [find?_insert_of_ne same] at found
      exact sound.complete name entries plain found

/-- What a growing body holds: patterns on the element that were merged into it, and the patterns
    of everything else. The first pattern is the body's own; the others are among its members. -/
structure Holds (body : Members) (merged : List WirePattern) (beside : Multiset WirePattern) : Prop
    extends IsSound body where
  text : body.find? "$regex" = merged.head?.map WirePattern.text
  options : body.find? "$options" = merged.findSome? WirePattern.options
  patterns : memberPatterns body = ↑(merged.tail.map WirePattern.bare) + beside

namespace Holds

variable {body : Members} {merged : List WirePattern} {beside : Multiset WirePattern}

theorem empty : Holds [] [] 0 where
  listed := fun _ found => by cases found
  complete := fun _ _ _ found => by cases found
  text := rfl
  options := rfl
  patterns := rfl

theorem patternsOf (holds : Holds body merged beside) :
    patternsOf (.object body) = ↑(mergedPatterns merged) + beside := by
  rw [Query.patternsOf, holds.patterns]
  have text := holds.text
  cases merged with
  | nil =>
      rw [ownPattern_of_absent text, zero_add]
      rfl
  | cons first later =>
      rw [ownPattern_of_find? text, holds.options, ← add_assoc, mergedPatterns, ← Multiset.cons_coe,
        ← Multiset.singleton_add]
      rfl

theorem insert (holds : Holds body merged beside) {key : String} {value : Json}
    (apart : ¬IsPatternKey key) (isList : key = conjunctionKey → ∃ items, value = .array items)
    (complete : startsWithDollar key = false → ∀ entries, value = .object entries →
      IsComplete entries)
    {added : Multiset WirePattern}
    (grown : memberPatterns (body.insert key value) = memberPatterns body + added) :
    Holds (body.insert key value) merged (beside + added) where
  toIsSound := holds.toIsSound.insert isList complete
  text := by rw [find?_insert_of_ne fun same => apart (.inl same), holds.text]
  options := by rw [find?_insert_of_ne fun same => apart (.inr same), holds.options]
  patterns := by rw [grown, holds.patterns, add_assoc]

theorem insertConjunction (holds : Holds body merged beside) (items : List Json)
    {added : Multiset WirePattern}
    (grown : memberPatterns (body.insert conjunctionKey (.array items)) =
      memberPatterns body + added) :
    Holds (body.insert conjunctionKey (.array items)) merged (beside + added) :=
  holds.insert (by decide) (fun _ => ⟨items, rfl⟩) (fun _ _ same => by cases same) grown

theorem appendConjunct (holds : Holds body merged beside) (condition : Json) :
    Holds (appendConjunct body condition) merged (beside + Query.patternsOf condition) := by
  obtain ⟨absent, appended⟩ | ⟨conjuncts, present, appended⟩ :=
    appendConjunct_cases holds.listed condition
  · rw [appended]
    refine holds.insertConjunction _ ?_
    rw [memberPatterns_insert_new absent, patternsUnder_conjunction, itemPatterns, itemPatterns,
      add_zero]
  · rw [appended]
    refine holds.insertConjunction _ (memberPatterns_insert_present present ?_)
    rw [patternsUnder_conjunction, patternsUnder_conjunction, itemPatterns_append, itemPatterns,
      itemPatterns, add_zero]

/-- Merging a member that is no part of a pattern on the element adds its patterns. -/
theorem mergeMember (holds : Holds body merged beside) {key : String} {value : Json}
    (ordinary : IsOrdinary key value) :
    Holds (mergeMember body key value) merged (beside + patternsUnder key value) := by
  obtain ⟨absent, added⟩ | ⟨existing, incoming, plain, rfl, present, disjoint, added⟩ |
      ⟨-, added⟩ := mergeMember_cases body ordinary.toIsMergeable
  all_goals rw [added]
  · exact holds.insert ordinary.apart ordinary.isList ordinary.complete
      (memberPatterns_insert_new absent value)
  · have complete := holds.complete key existing plain present
    have completeIncoming := ordinary.complete plain incoming rfl
    -- The conjunction is no operator map, so the grown member is another one.
    refine holds.insert ordinary.apart (fun same => ?_) (fun _ _ same => ?_) ?_
    · obtain ⟨_, impossible⟩ := ordinary.isList same
      cases impossible
    · cases same
      exact complete.append completeIncoming
    · refine memberPatterns_insert_present present ?_
      simp only [patternsUnder_field plain]
      exact patternsOf_append complete completeIncoming disjoint
  · rw [← patternsOf_single ordinary.apart]
    exact holds.appendConjunct _

/-- The text of a pattern on the element is merged like a pattern without options. -/
theorem mergeText (holds : Holds body merged beside) (text : Json) :
    Holds (Query.mergeMember body "$regex" text) (merged ++ [⟨text, none⟩]) beside := by
  have mergeable : IsMergeable "$regex" text := isMergeable_operator (by decide) (by decide) _
  have sameOptions : (merged ++ [WirePattern.mk text none]).findSome? WirePattern.options =
      merged.findSome? WirePattern.options := by
    rw [List.findSome?_append, List.findSome?_singleton, Option.or_none]
  obtain ⟨absent, added⟩ | ⟨_, _, plain, -⟩ | ⟨present, added⟩ := mergeMember_cases body mergeable
  · have first : merged = [] := by simpa [holds.text] using absent
    subst first
    rw [added]
    exact {
      toIsSound := holds.toIsSound.insert mergeable.isList fun plain => absurd plain (by decide)
      text := find?_insert_self body "$regex" text
      options := by rw [find?_insert_of_ne (by decide), holds.options, sameOptions]
      patterns := by
        rw [memberPatterns_insert_new absent, holds.patterns, patternsUnder_patternKey (.inl rfl),
          add_zero]
        rfl }
  · exact absurd plain (by decide)
  · obtain ⟨first, later, rfl⟩ : ∃ first later, merged = first :: later := by
      rw [holds.text] at present
      cases merged with
      | nil => cases present
      | cons first later => exact ⟨first, later, rfl⟩
    have appended := holds.appendConjunct (.single "$regex" text)
    have alone : Query.patternsOf (.single "$regex" text) = {⟨text, none⟩} :=
      patternsOf_wire ⟨text, none⟩
    rw [added]
    exact {
      toIsSound := appended.toIsSound
      text := appended.text
      options := by rw [appended.options, sameOptions]
      patterns := by
        rw [appended.patterns, alone, List.cons_append, List.tail_cons, List.tail_cons,
          List.map_append, ← Multiset.coe_add, add_comm beside, ← add_assoc]
        rfl }

/-- The options of a pattern on the element are merged without regard to its text. -/
theorem mergeOptions {text : Json} (holds : Holds body (merged ++ [⟨text, none⟩]) beside)
    (options : Json) :
    Holds (Query.mergeMember body "$options" options) (merged ++ [⟨text, some options⟩])
      beside := by
  have mergeable : IsMergeable "$options" options := isMergeable_operator (by decide) (by decide) _
  have sameText : (merged ++ [WirePattern.mk text none]).head?.map WirePattern.text =
      (merged ++ [WirePattern.mk text (some options)]).head?.map WirePattern.text := by
    cases merged <;> rfl
  have sameTail : (merged ++ [WirePattern.mk text none]).tail.map WirePattern.bare =
      (merged ++ [WirePattern.mk text (some options)]).tail.map WirePattern.bare := by
    cases merged with
    | nil => rfl
    | cons first later => simp [WirePattern.bare]
  have before := holds.options
  rw [List.findSome?_append, List.findSome?_singleton, Option.or_none] at before
  obtain ⟨absent, added⟩ | ⟨_, _, plain, -⟩ | ⟨present, added⟩ := mergeMember_cases body mergeable
  · rw [added]
    exact {
      toIsSound := holds.toIsSound.insert mergeable.isList fun plain => absurd plain (by decide)
      text := by rw [find?_insert_of_ne (by decide), holds.text, sameText]
      options := by
        rw [find?_insert_self, List.findSome?_append, ← before, absent, Option.none_or,
          List.findSome?_singleton]
      patterns := by
        rw [memberPatterns_insert_new absent, holds.patterns, patternsUnder_patternKey (.inr rfl),
          add_zero, sameTail] }
  · exact absurd plain (by decide)
  · obtain ⟨given, found⟩ := Option.isSome_iff_exists.mp present
    have appended := holds.appendConjunct (.single "$options" options)
    have alone : Query.patternsOf (.single "$options" options) = 0 := rfl
    rw [added]
    exact {
      toIsSound := appended.toIsSound
      text := appended.text.trans sameText
      options := by
        rw [appended.options, List.findSome?_append, List.findSome?_append, ← before, found,
          Option.some_or, Option.some_or]
      patterns := by rw [appended.patterns, alone, add_zero, sameTail] }

theorem mergePattern (holds : Holds body merged beside) (pattern : WirePattern) :
    Holds (merge body pattern.wire) (merged ++ [pattern]) beside := by
  obtain ⟨text, options⟩ := pattern
  cases options with
  | none => exact holds.mergeText text
  | some options => exact (holds.mergeText text).mergeOptions options

end Holds

end DocStore.Query
