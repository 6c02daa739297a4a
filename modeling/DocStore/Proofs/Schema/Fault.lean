import DocStore.Proofs.Schema.Conformance
import Mathlib.Data.Finset.Card
import Mathlib.Data.Finset.Dedup
import Mathlib.Logic.Relation

/-! # The fault that a validation reports

A value that does not conform to its schema has a first part that is faulty by itself: on the way
to it every check of a node has passed, and whatever was looked at before conforms. That part is
what the validator reports, by the steps that lead to it from wherever the value stands. References
only have to lead on: none may come back to itself before a step into the value.
-/

namespace DocStore

/-- The place that steps lead to from a location. -/
def Location.extend (location : Location) (steps : List LocationStep) : Location :=
  { location with steps := location.steps ++ steps }

@[simp] theorem Location.extend_nil (location : Location) : location.extend [] = location := by
  simp [extend]

theorem Location.extend_extend (location : Location) (steps more : List LocationStep) :
    (location.extend steps).extend more = location.extend (steps ++ more) := by
  simp [extend, List.append_assoc]

theorem Location.extend_member (location : Location) (name : String) (steps : List LocationStep) :
    (location.member name).extend steps = location.extend (.member name :: steps) :=
  location.extend_extend [.member name] steps

theorem Location.extend_item (location : Location) (index : Nat) (steps : List LocationStep) :
    (location.item index).extend steps = location.extend (.item index :: steps) :=
  location.extend_extend [.item index] steps

/-- The written form of the steps follows that of the location. -/
theorem Location.text_extend (location : Location) (steps : List LocationStep) :
    (location.extend steps).text =
      location.text ++ String.join (steps.map LocationStep.text) := by
  have written (start : String) :
      steps.foldl (fun acc step => acc ++ step.text) start =
        start ++ String.join (steps.map LocationStep.text) := by
    induction steps generalizing start with
    | nil => simp
    | cons step rest ih => simp [ih, String.append_assoc]
  rw [text, extend, List.foldl_append, written]
  rfl

/-- Where not all elements are good, there is a first that is not. -/
theorem exists_first_of_not_forall {α : Type} {good : α → Prop} {elements : List α}
    (some : ¬ ∀ element ∈ elements, good element) :
    ∃ before element after, elements = before ++ element :: after ∧
      (∀ earlier ∈ before, good earlier) ∧ ¬ good element := by
  induction elements with
  | nil => exact absurd (List.forall_mem_nil good) some
  | cons first rest ih =>
      by_cases isGood : good first
      · have later : ¬ ∀ element ∈ rest, good element :=
          fun all => some (List.forall_mem_cons.mpr ⟨isGood, all⟩)
        obtain ⟨before, element, after, rfl, passed, bad⟩ := ih later
        exact ⟨first :: before, element, after, rfl, List.forall_mem_cons.mpr ⟨isGood, passed⟩, bad⟩
      · exact ⟨[], first, rest, rfl, List.forall_mem_nil good, isGood⟩

namespace Schema

/-! ## References that lead on -/

/-- A name refers to another one before any step into the value. -/
def RefersTo (definitions : Definitions) (name other : String) : Prop :=
  ∃ target, definitions.lookup name = some target ∧ other ∈ target.openReferences

/-- No name leads back to itself through references alone. -/
def IsLoopFree (definitions : Definitions) : Prop :=
  ∀ name, ¬ Relation.TransGen (RefersTo definitions) name name

variable {definitions : Definitions}

/-- References that stand inside of objects and arrays only make no loop. -/
theorem isLoopFree_of_enclosed
    (enclosed : ∀ definition ∈ definitions, openReferences definition.2 = []) :
    IsLoopFree definitions := by
  intro name loop
  obtain ⟨other, ⟨target, found, refers⟩, -⟩ := Relation.TransGen.head'_iff.mp loop
  obtain ⟨before, after, rfl, -⟩ := List.lookup_eq_some_iff.mp found
  have none := enclosed (name, target) (List.mem_append_right _ List.mem_cons_self)
  exact List.not_mem_nil (none ▸ refers)

theorem mem_names_of_lookup {name : String} {target : Schema}
    (found : definitions.lookup name = some target) : name ∈ definitions.map Prod.fst := by
  obtain ⟨before, after, rfl, -⟩ := List.lookup_eq_some_iff.mp found
  simp

/-- Without a loop, the number of names that a name leads to is a rank. -/
theorem IsLoopFree.exists_rank (free : IsLoopFree definitions) :
    ∃ rank, IsGuarded definitions rank := by
  classical
  let names := (definitions.map Prod.fst).toFinset
  let reached : String → Finset String := fun name =>
    names.filter fun other => Relation.TransGen (RefersTo definitions) name other
  refine ⟨fun name => (reached name).card, fun name target found => ⟨?_, ?_⟩⟩
  · have named : name ∈ names := List.mem_toFinset.mpr (mem_names_of_lookup found)
    have fewer : reached name ⊂ names := by
      refine Finset.filter_ssubset.mpr ⟨name, named, free name⟩
    calc
      (reached name).card < names.card := Finset.card_lt_card fewer
      _ ≤ (definitions.map Prod.fst).length := List.toFinset_card_le _
      _ = definitions.length := List.length_map _
  · intro other refers defined
    obtain ⟨next, foundNext⟩ := Option.isSome_iff_exists.mp defined
    have leads : Relation.TransGen (RefersTo definitions) name other :=
      .single ⟨target, found, refers⟩
    refine Finset.card_lt_card ⟨fun later inside => ?_, fun all => ?_⟩
    · obtain ⟨named, onward⟩ := Finset.mem_filter.mp inside
      exact Finset.mem_filter.mpr ⟨named, leads.trans onward⟩
    · have named : other ∈ names := List.mem_toFinset.mpr (mem_names_of_lookup foundNext)
      exact free other (Finset.mem_filter.mp (all (Finset.mem_filter.mpr ⟨named, leads⟩))).2

/-! ## Faults and the way to them -/

/-- What a node of a schema finds wrong with a value by itself, whatever the parts of the value
    are. -/
inductive OwnFault (definitions : Definitions) : Schema → Json → Mismatch → Prop
  | notObject {properties : List (String × Schema)} {required : List String} {additional : Bool}
      {value : Json} (other : ∀ members, value ≠ .object members) :
      OwnFault definitions (.object properties required additional) value
        (.wrongKind .object value.kind)
  | missing {properties : List (String × Schema)} {before after : List String} {name : String}
      {additional : Bool} {members : Members} (earlier : ∀ other ∈ before, other ∈ members.keys)
      (absent : name ∉ members.keys) :
      OwnFault definitions (.object properties (before ++ name :: after) additional)
        (.object members) (.missingProperty name)
  | undeclared {properties : List (String × Schema)} {required : List String} {members : Members}
      {before after : List String} {key : String}
      (present : ∀ name ∈ required, name ∈ members.keys)
      (split : members.keys = before ++ key :: after)
      (earlier : ∀ other ∈ before, other ∈ properties.map Prod.fst)
      (unknown : key ∉ properties.map Prod.fst) :
      OwnFault definitions (.object properties required false) (.object members)
        (.unexpectedProperty key)
  | notArray {items : Schema} {least : Nat} {value : Json}
      (other : ∀ values, value ≠ .array values) :
      OwnFault definitions (.array items least) value (.wrongKind .array value.kind)
  | tooFew {items : Schema} {least : Nat} {values : List Json} (few : values.length < least) :
      OwnFault definitions (.array items least) (.array values)
        (.tooFewItems least values.length)
  | noAlternative {alternatives : List Schema} {value : Json}
      (refused : ∀ alternative ∈ alternatives, ¬ Conforms definitions alternative value) :
      OwnFault definitions (.oneOf alternatives) value .noAlternative
  | notNumber {value : Json} (other : ∀ number, value ≠ .number number) :
      OwnFault definitions .number value (.wrongKind .number value.kind)
  | notString {pattern : Option Pattern} {value : Json} (other : ∀ text, value ≠ .string text) :
      OwnFault definitions (.string pattern) value (.wrongKind .string value.kind)
  | patternNotFound {pattern : Pattern} {text : String} (lost : pattern.isFound text = false) :
      OwnFault definitions (.string (some pattern)) (.string text)
        (.patternNotFound text pattern.source)
  | unresolved {name : String} {value : Json} (undefined : definitions.lookup name = none) :
      OwnFault definitions (.reference name) value (.unresolvedReference name)

/-- The validator comes from a schema and a value to a part of either: every check of the node
    passes, and what is looked at before the part conforms. It enters no alternative. -/
inductive Enters (definitions : Definitions) :
    Schema → Json → List LocationStep → Schema → Json → Prop
  | member {before after : List (String × Schema)} {name : String} {schema : Schema}
      {required : List String} {additional : Bool} {members : Members} {value : Json}
      (present : ∀ name ∈ required, name ∈ members.keys)
      (declared : additional = false →
        ∀ key ∈ members.keys, key ∈ (before ++ (name, schema) :: after).map Prod.fst)
      (earlier : ∀ property ∈ before, ∀ value, members.find? property.1 = some value →
        Conforms definitions property.2 value)
      (found : members.find? name = some value) :
      Enters definitions (.object (before ++ (name, schema) :: after) required additional)
        (.object members) [.member name] schema value
  | item {items : Schema} {least : Nat} {before after : List Json} {value : Json}
      (enough : least ≤ (before ++ value :: after).length)
      (earlier : ∀ other ∈ before, Conforms definitions items other) :
      Enters definitions (.array items least) (.array (before ++ value :: after))
        [.item before.length] items value
  | reference {name : String} {target : Schema} {value : Json}
      (defined : definitions.lookup name = some target) :
      Enters definitions (.reference name) value [] target value

/-- The way that the validator takes from a schema and a value to a part of either. -/
inductive LeadsTo (definitions : Definitions) :
    Schema → Json → List LocationStep → Schema → Json → Prop
  | here (schema : Schema) (value : Json) : LeadsTo definitions schema value [] schema value
  | enter {schema next node : Schema} {value inner part : Json} {first steps : List LocationStep}
      (enters : Enters definitions schema value first next inner)
      (onward : LeadsTo definitions next inner steps node part) :
      LeadsTo definitions schema value (first ++ steps) node part

theorem OwnFault.not_conforms {node : Schema} {part : Json} {fault : Mismatch}
    (own : OwnFault definitions node part fault) : ¬ Conforms definitions node part := by
  intro conforms
  cases own with
  | notObject other | notArray other | notNumber other | notString other =>
      cases conforms
      exact other _ rfl
  | missing earlier absent =>
      cases conforms with
      | object present => exact absent (present _ (List.mem_append_right _ List.mem_cons_self))
  | undeclared present split earlier unknown =>
      cases conforms with
      | object _ declared => exact unknown (declared rfl _ (by simp [split]))
  | tooFew few =>
      cases conforms with
      | array enough => exact Nat.not_le_of_lt few enough
  | noAlternative refused =>
      cases conforms with
      | oneOf listed accepted => exact refused _ listed accepted
  | patternNotFound lost =>
      cases conforms with
      | string found => cases lost.symm.trans (found _ rfl)
  | unresolved undefined =>
      cases conforms with
      | reference defined => cases undefined.symm.trans defined

theorem missing?_eq_some_iff {required : List String} {members : Members} {name : String} :
    missing? required members = some name ↔ ∃ before after, required = before ++ name :: after ∧
      (∀ other ∈ before, other ∈ members.keys) ∧ name ∉ members.keys := by
  have present (other : String) : (!!members.contains other) = true ↔ other ∈ members.keys := by
    rw [Bool.not_not, ← Bool.not_eq_false, Members.contains_eq_false_iff, not_not]
  simp only [missing?, List.find?_eq_some_iff_append, present, Bool.not_eq_true',
    Members.contains_eq_false_iff]
  constructor
  · rintro ⟨absent, before, after, split, earlier⟩
    exact ⟨before, after, split, earlier, absent⟩
  · rintro ⟨before, after, split, earlier, absent⟩
    exact ⟨absent, before, after, split, earlier⟩

theorem undeclared?_eq_some_iff {properties : List (String × Schema)} {members : Members}
    {key : String} :
    undeclared? properties members = some key ↔
      ∃ before after, members.keys = before ++ key :: after ∧
        (∀ other ∈ before, other ∈ properties.map Prod.fst) ∧ key ∉ properties.map Prod.fst := by
  have known (other : String) :
      (properties.any fun property => property.1 == other) = true ↔
        other ∈ properties.map Prod.fst := by simp
  simp only [undeclared?, List.find?_eq_some_iff_append, Bool.not_not, known, Bool.not_eq_true',
    ← Bool.not_eq_true]
  constructor
  · rintro ⟨unknown, before, after, split, earlier⟩
    exact ⟨before, after, split, earlier, unknown⟩
  · rintro ⟨before, after, split, earlier, unknown⟩
    exact ⟨unknown, before, after, split, earlier⟩

theorem Enters.follow? {schema next : Schema} {value inner : Json} {first : List LocationStep}
    (enters : Enters definitions schema value first next inner) (steps : List LocationStep) :
    value.follow? (first ++ steps) = inner.follow? steps := by
  cases enters with
  | member present declared earlier found =>
      rw [List.singleton_append, Json.follow?, Json.step?, ← Members.find?, found, Option.bind_some]
  | item enough earlier =>
      rw [List.singleton_append, Json.follow?, Json.step?,
        List.getElem?_append_right (Nat.le_refl _), Nat.sub_self]
      rfl
  | reference defined => rfl

theorem LeadsTo.follow? {schema node : Schema} {value part : Json} {steps : List LocationStep}
    (leads : LeadsTo definitions schema value steps node part) :
    value.follow? steps = some part := by
  induction leads with
  | here => rfl
  | enter enters onward ih => rw [enters.follow?, ih]

/-- What is refused is at fault by itself, or a part is refused to which the validator comes. -/
theorem ownFault_or_enters {schema : Schema} {value : Json}
    (refused : ¬ Conforms definitions schema value) :
    (∃ fault, OwnFault definitions schema value fault) ∨
      ∃ first next inner, Enters definitions schema value first next inner ∧
        ¬ Conforms definitions next inner := by
  cases schema with
  | object properties required additional =>
      by_cases isObject : ∃ members : Members, value = .object members
      · obtain ⟨members, rfl⟩ := isObject
        by_cases present : ∀ name ∈ required, name ∈ members.keys
        · by_cases declared : additional = false →
              ∀ key ∈ members.keys, key ∈ properties.map Prod.fst
          · -- All checks of the node pass, so that some property is refused.
            have faulty : ¬ ∀ property ∈ properties, ∀ value,
                members.find? property.1 = some value → Conforms definitions property.2 value :=
              fun all => refused (.object present declared all)
            obtain ⟨before, ⟨name, schema⟩, after, rfl, earlier, bad⟩ :=
              exists_first_of_not_forall faulty
            push Not at bad
            obtain ⟨inner, found, bad⟩ := bad
            exact .inr ⟨_, schema, inner, .member present declared earlier found, bad⟩
          · obtain ⟨rfl, extra⟩ := Classical.not_imp.mp declared
            obtain ⟨before, key, after, split, earlier, unknown⟩ :=
              exists_first_of_not_forall extra
            exact .inl ⟨_, .undeclared present split earlier unknown⟩
        · obtain ⟨before, name, after, rfl, earlier, absent⟩ := exists_first_of_not_forall present
          exact .inl ⟨_, .missing earlier absent⟩
      · exact .inl ⟨_, .notObject fun members same => isObject ⟨members, same⟩⟩
  | array items least =>
      by_cases isArray : ∃ values, value = .array values
      · obtain ⟨values, rfl⟩ := isArray
        by_cases enough : least ≤ values.length
        · have faulty : ¬ ∀ item ∈ values, Conforms definitions items item :=
            fun all => refused (.array enough all)
          obtain ⟨before, item, after, rfl, earlier, bad⟩ := exists_first_of_not_forall faulty
          exact .inr ⟨_, items, item, .item enough earlier, bad⟩
        · exact .inl ⟨_, .tooFew (Nat.lt_of_not_le enough)⟩
      · exact .inl ⟨_, .notArray fun values same => isArray ⟨values, same⟩⟩
  | oneOf alternatives =>
      exact .inl ⟨_, .noAlternative fun _ listed accepted => refused (.oneOf listed accepted)⟩
  | number =>
      refine .inl ⟨_, .notNumber ?_⟩
      rintro number rfl
      exact refused (.number number)
  | string pattern =>
      by_cases isString : ∃ text, value = .string text
      · obtain ⟨text, rfl⟩ := isString
        cases pattern with
        | none => exact absurd (.string nofun) refused
        | some sought =>
            refine .inl ⟨_, .patternNotFound (Bool.eq_false_iff.mpr fun found => refused ?_)⟩
            exact .string fun _ same => by cases same; exact found
      · exact .inl ⟨_, .notString fun text same => isString ⟨text, same⟩⟩
  | reference name =>
      cases found : definitions.lookup name with
      | none => exact .inl ⟨_, .unresolved found⟩
      | some target =>
          exact .inr ⟨_, target, value, .reference found,
            fun accepted => refused (.reference found accepted)⟩

section Guarded

variable {rank : String → Nat}

/-- A part is smaller than the value, or fewer references are left to follow. -/
theorem Enters.decreases (guarded : IsGuarded definitions rank) {schema next : Schema}
    {value inner : Json} {first : List LocationStep} {hops : Nat}
    (enters : Enters definitions schema value first next inner)
    (bounded : NeedAtMost definitions rank hops schema.openReferences) :
    ∃ left, NeedAtMost definitions rank left next.openReferences ∧
      Prod.Lex (· < ·) (· < ·) (sizeOf inner, left) (sizeOf value, hops) := by
  cases enters with
  | member present declared earlier found =>
      have smaller := sizeOf_lt_of_lookup found
      refine ⟨_, guarded.needAtMost _, .left _ _ ?_⟩
      rw [Json.object.sizeOf_spec]
      omega
  | @item _ _ before after =>
      have smaller : sizeOf inner < sizeOf (before ++ inner :: after) :=
        List.sizeOf_lt_of_mem (List.mem_append_right _ List.mem_cons_self)
      refine ⟨_, guarded.needAtMost _, .left _ _ ?_⟩
      rw [Json.array.sizeOf_spec]
      omega
  | reference defined =>
      -- The value stays the same, and the target needs fewer hops than the name.
      have fewer := bounded _ List.mem_cons_self (Option.isSome_of_eq_some defined)
      exact ⟨_, (guarded _ _ defined).2, .right _ fewer⟩

/-- A value that does not conform has a fault to which the validator comes. -/
theorem exists_fault_of_not_conforms (guarded : IsGuarded definitions rank) (hops : Nat)
    (schema : Schema) (value : Json)
    (bounded : NeedAtMost definitions rank hops schema.openReferences)
    (refused : ¬ Conforms definitions schema value) :
    ∃ steps node part fault, LeadsTo definitions schema value steps node part ∧
      OwnFault definitions node part fault := by
  obtain ⟨fault, own⟩ | ⟨first, next, inner, enters, bad⟩ := ownFault_or_enters refused
  · exact ⟨[], schema, value, fault, .here schema value, own⟩
  · obtain ⟨left, boundedNext, decreasing⟩ := enters.decreases guarded bounded
    obtain ⟨steps, node, part, fault, leads, own⟩ :=
      exists_fault_of_not_conforms guarded left next inner boundedNext bad
    exact ⟨first ++ steps, node, part, fault, .enter enters leads, own⟩
termination_by (sizeOf value, hops)
decreasing_by exact decreasing

/-- A node's own fault is what the validator tells of it. -/
theorem validateWithin_of_ownFault (guarded : IsGuarded definitions rank) {hops : Nat}
    {schema : Schema} {value : Json} {fault : Mismatch}
    (bounded : NeedAtMost definitions rank hops schema.openReferences)
    (own : OwnFault definitions schema value fault) (location : Location) :
    validateWithin definitions hops schema value location = mismatch location fault := by
  cases own with
  | notObject other | notArray other | notNumber other | notString other =>
      rw [validateWithin]
      exact other
  | @missing properties before after name additional members earlier absent =>
      have lacks : missing? (before ++ name :: after) members = some name :=
        missing?_eq_some_iff.mpr ⟨before, after, rfl, earlier, absent⟩
      rw [validateWithin]
      simp only [lacks]
  | undeclared present split earlier unknown =>
      have extra := undeclared?_eq_some_iff.mpr ⟨_, _, split, earlier, unknown⟩
      rw [validateWithin]
      simp only [missing?_eq_none_iff.mpr present, extra, Bool.false_eq_true, if_false]
  | tooFew few => rw [validateWithin, if_pos few]
  | @noAlternative alternatives _ refused =>
      have none : ¬ anyAccepts definitions hops alternatives value location = true := by
        rw [anyAccepts_iff guarded hops alternatives value location bounded]
        rintro ⟨alternative, listed, accepted⟩
        exact refused alternative listed accepted
      rw [validateWithin, if_neg none]
  | patternNotFound lost =>
      rw [validateWithin, if_neg (Bool.eq_false_iff.mp lost)]
  | unresolved undefined =>
      rw [validateWithin.eq_def]
      simp only [undefined]

/-- The properties before one whose value is refused are passed. -/
theorem validateProperties_of_split (guarded : IsGuarded definitions rank)
    {before after : List (String × Schema)} {name : String} {schema : Schema} {members : Members}
    {value : Json} {location : Location} {error : Error}
    (earlier : ∀ property ∈ before, ∀ value, members.find? property.1 = some value →
      Conforms definitions property.2 value)
    (found : members.find? name = some value)
    (failed : validateWithin definitions definitions.length schema value (location.member name) =
      .error error) :
    validateProperties definitions (before ++ (name, schema) :: after) members location =
      .error error := by
  induction before with
  | nil =>
      rw [List.nil_append, validateProperties]
      split
      next other foundOther =>
          cases found.symm.trans foundOther
          rw [failed]
      next absent => cases found.symm.trans absent
  | cons property rest ih =>
      obtain ⟨other, otherSchema⟩ := property
      obtain ⟨first, later⟩ := List.forall_mem_cons.mp earlier
      rw [List.cons_append, validateProperties]
      split
      next part foundPart =>
          have passes := validateWithin_eq_ok_iff guarded definitions.length otherSchema part
            (location.member other) (guarded.needAtMost _)
          rw [passes.mpr (first part foundPart)]
          exact ih later
      next => exact ih later

/-- The items before one that is refused are passed. -/
theorem validateItems_of_split (guarded : IsGuarded definitions rank) {before after : List Json}
    {schema : Schema} {value : Json} {index : Nat} {location : Location} {error : Error}
    (earlier : ∀ other ∈ before, Conforms definitions schema other)
    (failed : validateWithin definitions definitions.length schema value
      (location.item (index + before.length)) = .error error) :
    validateItems definitions schema (before ++ value :: after) index location =
      .error error := by
  induction before generalizing index with
  | nil =>
      rw [List.length_nil, Nat.add_zero] at failed
      rw [List.nil_append, validateItems, failed]
  | cons other rest ih =>
      obtain ⟨first, later⟩ := List.forall_mem_cons.mp earlier
      have passes := validateWithin_eq_ok_iff guarded definitions.length schema other
        (location.item index) (guarded.needAtMost _)
      rw [List.cons_append, validateItems, passes.mpr first]
      refine ih later ?_
      rwa [List.length_cons, Nat.add_comm rest.length, ← Nat.add_assoc] at failed

/-- Refusing a part to which the validator comes is refusing the value. -/
theorem validateWithin_of_enters (guarded : IsGuarded definitions rank) {schema next : Schema}
    {value inner : Json} {first : List LocationStep} {hops : Nat} {location : Location}
    {error : Error} (enters : Enters definitions schema value first next inner)
    (bounded : NeedAtMost definitions rank hops schema.openReferences)
    (failed : ∀ left, NeedAtMost definitions rank left next.openReferences →
      validateWithin definitions left next inner (location.extend first) = .error error) :
    validateWithin definitions hops schema value location = .error error := by
  cases enters with
  | @member before after name _ required additional members _ present declared earlier found =>
      have undeclared : (if additional then none
          else undeclared? (before ++ (name, next) :: after) members) = none := by
        cases additional with
        | true => rfl
        | false => exact undeclared?_eq_none_iff.mpr (declared rfl)
      rw [validateWithin]
      simp only [missing?_eq_none_iff.mpr present, undeclared]
      exact validateProperties_of_split guarded earlier found (failed _ (guarded.needAtMost _))
  | item enough earlier =>
      rw [validateWithin, if_neg (Nat.not_lt_of_le enough)]
      refine validateItems_of_split guarded earlier ?_
      rw [Nat.zero_add]
      exact failed _ (guarded.needAtMost _)
  | reference defined =>
      have fewer := bounded _ List.mem_cons_self (Option.isSome_of_eq_some defined)
      obtain ⟨left, rfl⟩ := Nat.exists_eq_succ_of_ne_zero (Nat.ne_zero_of_lt fewer)
      rw [validateWithin.eq_def]
      simp only [defined]
      refine location.extend_nil ▸ failed left fun other opened isDefined => ?_
      exact Nat.lt_of_lt_of_le ((guarded _ _ defined).2 other opened isDefined)
        (Nat.le_of_lt_succ fewer)

/-- The validator tells the fault that it comes to, wherever the value stands. -/
theorem validateWithin_of_leadsTo (guarded : IsGuarded definitions rank) {schema node : Schema}
    {value part : Json} {steps : List LocationStep} {fault : Mismatch}
    (leads : LeadsTo definitions schema value steps node part)
    (own : OwnFault definitions node part fault) (hops : Nat)
    (bounded : NeedAtMost definitions rank hops schema.openReferences) (location : Location) :
    validateWithin definitions hops schema value location =
      .error (.schemaMismatch (location.extend steps) fault) := by
  induction leads generalizing hops location with
  | here =>
      rw [validateWithin_of_ownFault guarded bounded own, Location.extend_nil, mismatch]
  | enter enters onward ih =>
      refine validateWithin_of_enters guarded enters bounded fun left boundedNext => ?_
      rw [ih own left boundedNext, Location.extend_extend]

end Guarded

/-- Validation succeeds exactly for the values that conform, wherever they stand. Any other value
    has one mismatch, placed by steps that exist in it: in the value and in the schema they lead to
    a part that its node refuses for itself. -/
theorem validate_points_at_fault (free : IsLoopFree definitions) (schema : Schema) (value : Json) :
    (∀ location, validate definitions schema value location = .ok () ↔
      Conforms definitions schema value) ∧
    (¬ Conforms definitions schema value →
      ∃ steps node part fault, LeadsTo definitions schema value steps node part ∧
        value.follow? steps = some part ∧ OwnFault definitions node part fault ∧
        ¬ Conforms definitions node part ∧
        ∀ location : Location,
          (location.extend steps).text =
            location.text ++ String.join (steps.map LocationStep.text) ∧
          validate definitions schema value location =
            .error (.schemaMismatch (location.extend steps) fault)) := by
  obtain ⟨rank, guarded⟩ := free.exists_rank
  refine ⟨fun location => validate_eq_ok_iff guarded, fun refused => ?_⟩
  obtain ⟨steps, node, part, fault, leads, own⟩ :=
    exists_fault_of_not_conforms guarded definitions.length schema value (guarded.needAtMost _)
      refused
  refine ⟨steps, node, part, fault, leads, leads.follow?, own, own.not_conforms, ?_⟩
  intro location
  exact ⟨location.text_extend steps,
    validateWithin_of_leadsTo guarded leads own _ (guarded.needAtMost _) location⟩

/-- Trees of numbers. -/
def treeDefinitions : Definitions :=
  [("tree", .object [("value", .number), ("children", .array (.reference "tree") 0)]
    ["value"] false)]

theorem validate_points_at_fault_tree :
    let value : Json := .object [("value", .number (.integer 1 (by decide) (by decide))),
      ("children", .array [.object [("value", .string "two")]])]
    IsLoopFree treeDefinitions ∧ ¬ Conforms treeDefinitions (.reference "tree") value ∧
      ∃ steps node part fault,
        LeadsTo treeDefinitions (.reference "tree") value steps node part ∧
        OwnFault treeDefinitions node part fault ∧
        validate treeDefinitions (.reference "tree") value (.whole "root") =
          .error (.schemaMismatch (Location.extend (.whole "root") steps) fault) := by
  intro value
  have free : IsLoopFree treeDefinitions := by
    refine isLoopFree_of_enclosed fun definition listed => ?_
    cases List.mem_singleton.mp listed
    rfl
  have refused : ¬ Conforms treeDefinitions (.reference "tree") value := by
    intro conforms
    have parts := (conforms_object.mp ((conforms_reference rfl).mp conforms)).2.2
    have children := parts _ (.tail _ (.head _)) _ rfl
    rw [conforms_array] at children
    obtain ⟨items, same, -, accepted⟩ := children
    cases same
    have inner := conforms_object.mp ((conforms_reference rfl).mp (accepted _ (.head _)))
    cases inner.2.2 _ (.head _) _ rfl
  obtain ⟨steps, node, part, fault, leads, -, own, -, told⟩ :=
    (validate_points_at_fault free (.reference "tree") value).2 refused
  exact ⟨free, refused, steps, node, part, fault, leads, own, (told (.whole "root")).2⟩

end Schema

end DocStore
