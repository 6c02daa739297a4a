import DocStore.Proofs.Operand.Literal
import DocStore.Proofs.Outcome
import DocStore.Update

/-! # One value and several

Several values, or values with modifiers, are sent as an object with `$each` and the modifiers. One
value without modifiers is sent as it is. So a value that looks like such an object is not told
apart from what it looks like, while any other value is.
-/

namespace DocStore

open Operand

/-- The values that are added. -/
def Addition.values : Addition → List Operand
  | .one value => [value]
  | .each values => values

namespace FieldOperation

/-- The form of a list of values with modifiers. -/
def listForm (values : List Json) (modifiers : PushModifiers) : Json :=
  .object (("$each", .array values) :: modifiers.members)

/-- Whether values are sent as a list: one value is, if it has modifiers. -/
def IsListed (items : Addition) (modifiers : PushModifiers) : Prop :=
  modifiers = .plain → ∃ values, items = .each values

variable {field operator : String} {wire : Json}

theorem literalValues_eq_ok_iff {operands : List Operand} {values : List Json} :
    literalValues operands field operator = .ok values ↔ literalItems? operands = some values := by
  induction operands generalizing values with
  | nil => simp [literalValues, literalItems?]
  | cons operand rest ih =>
      rw [literalValues, literalItems?_cons, bind_eq_ok_iff]
      simp only [bind_pure_eq_ok_iff, ih, requireLiteral_eq_ok_iff, exists_and_left]

theorem compile_addToSet_each {operands : List Operand} :
    (addToSet (.each operands)).compile field = .ok wire ↔
      ∃ values, literalItems? operands = some values ∧ wire = listForm values .plain := by
  rw [compile, bind_pure_eq_ok_iff]
  simp only [literalValues_eq_ok_iff]
  rfl

theorem compile_push_listed {items : Addition} {modifiers : PushModifiers}
    (listed : IsListed items modifiers) :
    (push items modifiers).compile field = .ok wire ↔
      ∃ values, literalItems? items.values = some values ∧ wire = listForm values modifiers := by
  cases items with
  | each operands =>
      rw [compile, bind_pure_eq_ok_iff]
      simp only [literalValues_eq_ok_iff]
      rfl
  | one operand =>
      have modified : modifiers ≠ .plain := fun plain => nomatch listed plain
      rw [compile, bind_eq_ok_iff]
      simp only [if_neg modified, Addition.values, literalItems?_cons, requireLiteral_eq_ok_iff]
      constructor
      · rintro ⟨value, literal, made⟩
        cases made
        exact ⟨[value], ⟨value, [], literal, rfl, rfl⟩, rfl⟩
      · rintro ⟨_, ⟨value, _, literal, none, rfl⟩, rfl⟩
        cases none
        exact ⟨value, literal, rfl⟩

theorem compile_one {operand : Operand} {value : Json} (literal : operand.literal? = some value)
    (field : String) :
    (addToSet (.one operand)).compile field = .ok value ∧
      (push (.one operand) .plain).compile field = .ok value := by
  constructor
  · rw [compile]
    exact requireLiteral_eq_ok_iff.mpr literal
  · rw [compile, requireLiteral_eq_ok_iff.mpr literal]
    rfl

/-- The values in a literal that looks like a list can be given one by one. -/
theorem exists_literalItems? {operand : Operand} {values : List Json} {modifiers : PushModifiers}
    (literal : operand.literal? = some (listForm values modifiers)) :
    ∃ operands, literalItems? operands = some values := by
  have distinct := hasDistinctKeys_of_literal? operand _ literal
  cases distinct with
  | object _ all =>
      have listDistinct := (List.forall_mem_cons.mp all).1
      cases listDistinct with
      | array each => exact ⟨ofItems values, literalItems?_ofItems values each⟩

/-- A single literal is sent as it is, both to be added to a set and to be appended, and anything
    that is sent as a list has the form of one. So the literal has the same form as some other
    values exactly if it looks like a list: without modifiers to be taken for values that are added
    to a set, and with any modifiers to be taken for values that are appended. -/
theorem compile_one_eq_listed_iff {operand : Operand} {value : Json}
    (literal : operand.literal? = some value) (field : String) :
    (addToSet (.one operand)).compile field = .ok value ∧
    (push (.one operand) .plain).compile field = .ok value ∧
    (∀ operands, (addToSet (.each operands)).compile field = .ok value ↔
      ∃ values, literalItems? operands = some values ∧ value = listForm values .plain) ∧
    (∀ items modifiers, IsListed items modifiers →
      ((push items modifiers).compile field = .ok value ↔
        ∃ values, literalItems? items.values = some values ∧ value = listForm values modifiers)) ∧
    ((∃ operands, (addToSet (.each operands)).compile field = .ok value) ↔
      ∃ values, value = listForm values .plain) ∧
    ((∃ items modifiers, IsListed items modifiers ∧
        (push items modifiers).compile field = .ok value) ↔
      ∃ values modifiers, value = listForm values modifiers) := by
  obtain ⟨added, appended⟩ := compile_one literal field
  refine ⟨added, appended, fun _ => compile_addToSet_each, fun _ _ => compile_push_listed, ?_, ?_⟩
  · simp only [compile_addToSet_each]
    constructor
    · rintro ⟨_, values, -, same⟩
      exact ⟨values, same⟩
    · rintro ⟨values, rfl⟩
      obtain ⟨operands, found⟩ := exists_literalItems? literal
      exact ⟨operands, values, found, rfl⟩
  · constructor
    · rintro ⟨items, modifiers, listed, compiled⟩
      obtain ⟨values, -, same⟩ := (compile_push_listed listed).mp compiled
      exact ⟨values, modifiers, same⟩
    · rintro ⟨values, modifiers, rfl⟩
      obtain ⟨operands, found⟩ := exists_literalItems? literal
      have listed : IsListed (.each operands) modifiers := fun _ => ⟨operands, rfl⟩
      exact ⟨_, modifiers, listed, (compile_push_listed listed).mpr ⟨values, found, rfl⟩⟩

/-- An object with the name of a modifier, but without values: nothing else has its form. -/
theorem compile_one_eq_listed_iff_slice :
    let operand := Operand.map [("$slice", .number (.ofUInt64 1))]
    let value := Json.single "$slice" (.number (.ofUInt64 1))
    operand.literal? = some value ∧ (addToSet (.one operand)).compile "tags" = .ok value ∧
      (push (.one operand) .plain).compile "tags" = .ok value ∧
      (¬∃ operands, (addToSet (.each operands)).compile "tags" = .ok value) ∧
      ¬∃ items modifiers, IsListed items modifiers ∧
        (push items modifiers).compile "tags" = .ok value := by
  intro operand value
  have literal : operand.literal? = some value := rfl
  obtain ⟨added, appended, -, -, addedAlike, appendedAlike⟩ :=
    compile_one_eq_listed_iff literal "tags"
  have noList : ¬∃ values modifiers, value = listForm values modifiers := by
    rintro ⟨values, modifiers, same⟩
    simp [value, listForm, Json.single] at same
  refine ⟨literal, added, appended, ?_, mt appendedAlike.mp noList⟩
  exact mt addedAlike.mp fun ⟨values, same⟩ => noList ⟨values, .plain, same⟩

/-- An object that looks like a list is added to a set as the values in it. The same object with a
    number of elements to keep is appended as the values in it, and the list is cut. -/
theorem object_added_as_list :
    let number := Operand.number (.ofUInt64 1)
    let batch := Operand.map [("$each", .array [number])]
    let cut := Operand.map [("$each", .array [number]), ("$slice", .number (.ofInt64 0))]
    ((addToSet (.one batch)).compile "tags" =
        .ok (.single "$each" (.array [.number (.ofUInt64 1)])) ∧
      (addToSet (.one batch)).compile "tags" = (addToSet (.each [number])).compile "tags") ∧
    (push (.one cut) .plain).compile "tags" =
      (push (.each [number]) ⟨none, some 0, none⟩).compile "tags" :=
  ⟨⟨rfl, rfl⟩, rfl⟩

end FieldOperation

end DocStore
