import DocStore.Proofs.Json.Members
import DocStore.Query.Compile
import Mathlib.Algebra.Order.Group.Multiset

/-! # Conditions of a body

A body is read as a multiset of conditions, the lists of its conjunctions being opened at every
depth. Merging a fragment into a body adds the fragment's conditions to the body's, so that none
is lost and none is made up. What makes this work is that the conjunction slot of a growing body
is always a list, and that the operators on a field are different ones.
-/

namespace DocStore.Query

open Members

/-- A condition of a body. -/
inductive Condition where
  /-- An operator on a field, with its operand. -/
  | operator (field operator : String) (operand : Json)
  /-- A member that is no field with operators. -/
  | whole (key : String) (value : Json)
  deriving DecidableEq, Repr

/-- The conditions on a field: one for each operator. -/
def fieldConditions (field : String) : Json → Multiset Condition
  | .object entries => ↑(entries.map fun entry => Condition.operator field entry.1 entry.2)
  | other => {.whole field other}

mutual

/-- The conditions of a body. -/
def conditions : Json → Multiset Condition
  | .object members => memberConditions members
  | _ => 0
termination_by structural body => body

/-- The conditions of a body's members. -/
def memberConditions : List (String × Json) → Multiset Condition
  | [] => 0
  | (key, value) :: rest =>
      (if key = conjunctionKey then conjunctConditions value
        else if startsWithDollar key then {.whole key value}
        else fieldConditions key value) + memberConditions rest
termination_by structural members => members

/-- The conditions of what stands in a body's conjunction slot. -/
def conjunctConditions : Json → Multiset Condition
  | .array items => itemConditions items
  | other => {.whole conjunctionKey other}
termination_by structural slot => slot

/-- The conditions of the bodies in a conjunction. -/
def itemConditions : List Json → Multiset Condition
  | [] => 0
  | item :: rest => conditions item + itemConditions rest
termination_by structural items => items

end

/-- The conditions of one member. -/
def ofMember (key : String) (value : Json) : Multiset Condition :=
  if key = conjunctionKey then conjunctConditions value
  else if startsWithDollar key then {.whole key value}
  else fieldConditions key value

theorem memberConditions_cons (key : String) (value : Json) (rest : Members) :
    memberConditions ((key, value) :: rest) = ofMember key value + memberConditions rest := rfl

theorem ofMember_conjunction (items : List Json) :
    ofMember conjunctionKey (.array items) = itemConditions items := rfl

theorem ofMember_field {key : String} (plain : startsWithDollar key = false) (entries : Members) :
    ofMember key (.object entries) =
      ↑(entries.map fun entry => Condition.operator key entry.1 entry.2) := by
  have notConjunction : key ≠ conjunctionKey := by
    rintro rfl
    cases plain
  simp only [ofMember, if_neg notConjunction, plain, Bool.false_eq_true, if_false,
    fieldConditions]

theorem memberConditions_eq_sum (members : Members) :
    memberConditions members = (members.map fun member => ofMember member.1 member.2).sum := by
  induction members with
  | nil => rfl
  | cons member rest ih => rw [memberConditions_cons, ih, List.map_cons, List.sum_cons]

theorem itemConditions_append (left right : List Json) :
    itemConditions (left ++ right) = itemConditions left + itemConditions right := by
  induction left with
  | nil => simp [itemConditions]
  | cons item rest ih => rw [List.cons_append, itemConditions, itemConditions, ih, add_assoc]

theorem conditions_single (key : String) (value : Json) :
    conditions (.single key value) = ofMember key value := by
  rw [Json.single, conditions, memberConditions_cons, memberConditions, add_zero]

/-- A new key adds the conditions of its member. -/
theorem memberConditions_insert_new {body : Members} {key : String}
    (absent : body.find? key = none) (value : Json) :
    memberConditions (body.insert key value) = memberConditions body + ofMember key value := by
  rw [memberConditions_eq_sum, memberConditions_eq_sum, sum_insert_of_absent absent]

/-- A present key exchanges the conditions of its member. -/
theorem memberConditions_insert_present {body : Members} {key : String} {old value : Json}
    {added : Multiset Condition} (present : body.find? key = some old)
    (grown : ofMember key value = ofMember key old + added) :
    memberConditions (body.insert key value) = memberConditions body + added := by
  rw [memberConditions_eq_sum, memberConditions_eq_sum, sum_insert_of_find? present grown]

/-- The conjunction slot of a body is a list wherever there is one. -/
def HasConjunctList (body : Members) : Prop :=
  ∀ value, body.find? conjunctionKey = some value → ∃ items, value = .array items

theorem HasConjunctList.insert {body : Members} (listed : HasConjunctList body) {key : String}
    {value : Json} (isList : key = conjunctionKey → ∃ items, value = .array items) :
    HasConjunctList (body.insert key value) := by
  intro found present
  by_cases same : key = conjunctionKey
  · subst same
    rw [find?_insert_self] at present
    cases present
    exact isList rfl
  · rw [find?_insert_of_ne same] at present
    exact listed found present

/-- What merging relies on for a member: a conjunction is a list, and the operators on a field are
    different ones. -/
structure IsMergeable (key : String) (value : Json) : Prop where
  isList : key = conjunctionKey → ∃ items, value = .array items
  distinct : startsWithDollar key = false → ∀ entries, value = .object entries →
    (keys entries).Nodup

/-- A condition is appended to the conjunction's list, which is started where there is none. -/
theorem appendConjunct_cases {body : Members} (listed : HasConjunctList body) (condition : Json) :
    (body.find? conjunctionKey = none ∧
      appendConjunct body condition = body.insert conjunctionKey (.array [condition])) ∨
    ∃ conjuncts, body.find? conjunctionKey = some (.array conjuncts) ∧
      appendConjunct body condition =
        body.insert conjunctionKey (.array (conjuncts ++ [condition])) := by
  unfold appendConjunct
  split
  next absent => exact .inl ⟨absent, rfl⟩
  next conjuncts present => exact .inr ⟨conjuncts, present, rfl⟩
  next other notList present =>
    obtain ⟨items, rfl⟩ := listed other present
    exact absurd rfl (notList items)

theorem HasConjunctList.appendConjunct {body : Members} (listed : HasConjunctList body)
    (condition : Json) : HasConjunctList (appendConjunct body condition) := by
  obtain ⟨-, appended⟩ | ⟨_, -, appended⟩ := appendConjunct_cases listed condition
  all_goals
    rw [appended]
    exact listed.insert fun _ => ⟨_, rfl⟩

/-- The three outcomes of merging a member: a new key, an operator map that grows, and a
    collision. -/
theorem mergeMember_cases (body : Members) {key : String} {value : Json}
    (mergeable : IsMergeable key value) :
    (body.find? key = none ∧ mergeMember body key value = body.insert key value) ∨
    (∃ existing incoming, startsWithDollar key = false ∧ value = .object incoming ∧
      body.find? key = some (.object existing) ∧ (∀ k ∈ keys incoming, k ∉ keys existing) ∧
      mergeMember body key value = body.insert key (.object (existing ++ incoming))) ∨
    ((body.find? key).isSome ∧
      mergeMember body key value = appendConjunct body (.single key value)) := by
  unfold mergeMember
  split
  next absent => exact .inl ⟨absent, rfl⟩
  next old present =>
    have isPresent : (body.find? key).isSome := by rw [present, Option.isSome_some]
    split
    next existing incoming =>
      split
      next disjoint =>
        simp only [Bool.and_eq_true, Bool.not_eq_true', List.all_eq_true,
          contains_eq_false_iff] at disjoint
        obtain ⟨plain, absent⟩ := disjoint
        refine .inr (.inl ⟨existing, incoming, plain, rfl, present, absent, ?_⟩)
        rw [extend_of_absent (mergeable.distinct plain incoming rfl) absent]
      next => exact .inr (.inr ⟨isPresent, rfl⟩)
    next => exact .inr (.inr ⟨isPresent, rfl⟩)

theorem HasConjunctList.mergeMember {body : Members} (listed : HasConjunctList body) {key : String}
    {value : Json} (mergeable : IsMergeable key value) :
    HasConjunctList (mergeMember body key value) := by
  obtain ⟨-, merged⟩ | ⟨_, _, plain, -, -, -, merged⟩ | ⟨-, merged⟩ :=
    mergeMember_cases body mergeable
  all_goals rw [merged]
  · exact listed.insert mergeable.isList
  · refine listed.insert ?_
    rintro rfl
    cases plain
  · exact listed.appendConjunct _

theorem appendConjunct_conditions {body : Members} (listed : HasConjunctList body)
    (condition : Json) :
    memberConditions (appendConjunct body condition) =
      memberConditions body + conditions condition := by
  obtain ⟨absent, appended⟩ | ⟨conjuncts, present, appended⟩ :=
    appendConjunct_cases listed condition
  · rw [appended, memberConditions_insert_new absent, ofMember_conjunction, itemConditions,
      itemConditions, add_zero]
  · rw [appended]
    refine memberConditions_insert_present present ?_
    rw [ofMember_conjunction, ofMember_conjunction, itemConditions_append, itemConditions,
      itemConditions, add_zero]

/-- Merging a member adds its conditions. -/
theorem mergeMember_conditions {body : Members} {key : String} {value : Json}
    (listed : HasConjunctList body) (mergeable : IsMergeable key value) :
    memberConditions (mergeMember body key value) =
      memberConditions body + ofMember key value := by
  obtain ⟨absent, merged⟩ | ⟨existing, incoming, plain, rfl, present, -, merged⟩ | ⟨-, merged⟩ :=
    mergeMember_cases body mergeable
  all_goals rw [merged]
  · exact memberConditions_insert_new absent value
  · refine memberConditions_insert_present present ?_
    rw [ofMember_field plain, ofMember_field plain, ofMember_field plain, List.map_append,
      Multiset.coe_add]
  · rw [appendConjunct_conditions listed, conditions_single]

/-- What merging relies on for a fragment. -/
def IsFragment (fragment : Json) : Prop :=
  ∃ members, fragment = .object members ∧ ∀ member ∈ members, IsMergeable member.1 member.2

theorem merge_conditions {body : Members} {fragment : Json} (listed : HasConjunctList body)
    (isFragment : IsFragment fragment) :
    HasConjunctList (merge body fragment) ∧
      memberConditions (merge body fragment) =
        memberConditions body + conditions fragment := by
  obtain ⟨members, rfl, mergeable⟩ := isFragment
  simp only [merge, conditions]
  induction members generalizing body with
  | nil => exact ⟨listed, by simp [memberConditions]⟩
  | cons member rest ih =>
      obtain ⟨key, value⟩ := member
      have mergeableFirst : IsMergeable key value := mergeable (key, value) (by simp)
      obtain ⟨listedRest, later⟩ := ih (listed.mergeMember mergeableFirst)
        fun member mem => mergeable member (List.mem_cons_of_mem _ mem)
      refine ⟨listedRest, ?_⟩
      rw [List.foldl_cons, later, mergeMember_conditions listed mergeableFirst,
        memberConditions_cons, add_assoc]

/-- Merging a list of fragments adds up their conditions, whatever was merged before. -/
theorem foldl_merge_conditions {fragments : List Json} {body : Members}
    (listed : HasConjunctList body) (areFragments : ∀ fragment ∈ fragments, IsFragment fragment) :
    memberConditions (fragments.foldl merge body) =
      memberConditions body + (fragments.map conditions).sum := by
  induction fragments generalizing body with
  | nil => simp
  | cons fragment rest ih =>
      obtain ⟨listedFirst, first⟩ := merge_conditions listed (areFragments fragment (by simp))
      rw [List.foldl_cons,
        ih listedFirst fun later mem => areFragments later (List.mem_cons_of_mem _ mem),
        first, List.map_cons, List.sum_cons, add_assoc]

end DocStore.Query
