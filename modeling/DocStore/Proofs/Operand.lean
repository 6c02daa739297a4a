import DocStore.Operand

/-! # Literal operands

An operand has a literal form exactly when no field is mentioned anywhere inside it.
-/

namespace DocStore.Operand

mutual

/-- Whether an operand refers to a field, itself or somewhere inside. -/
def mentionsField : Operand → Bool
  | .field _ => true
  | .array items => itemsMentionField items
  | .map entries => entriesMentionField entries
  | .null | .bool _ | .number _ | .string _ => false
termination_by structural operand => operand

/-- Whether one of several operands mentions a field. -/
def itemsMentionField : List Operand → Bool
  | [] => false
  | item :: rest => mentionsField item || itemsMentionField rest
termination_by structural items => items

/-- Whether the operand of an entry mentions a field. -/
def entriesMentionField : List (String × Operand) → Bool
  | [] => false
  | (_, entry) :: rest => mentionsField entry || entriesMentionField rest
termination_by structural entries => entries

end

mutual

theorem isSome_literal? : ∀ operand : Operand, operand.literal?.isSome = !operand.mentionsField
  | .null | .bool _ | .number _ | .string _ | .field _ => rfl
  | .array items => by
      rw [literal?, mentionsField, Option.isSome_map, isSome_literalItems? items]
  | .map entries => by
      rw [literal?, mentionsField, Option.isSome_map, isSome_literalEntries? entries]

theorem isSome_literalItems? :
    ∀ items : List Operand, (literalItems? items).isSome = !itemsMentionField items
  | [] => rfl
  | item :: rest => by
      have first := isSome_literal? item
      have others := isSome_literalItems? rest
      rw [literalItems?, itemsMentionField, Bool.not_or, ← first, ← others]
      cases literal? item <;> cases literalItems? rest <;> rfl

theorem isSome_literalEntries? :
    ∀ entries : List (String × Operand),
      (literalEntries? entries).isSome = !entriesMentionField entries
  | [] => rfl
  | (_, entry) :: rest => by
      have first := isSome_literal? entry
      have others := isSome_literalEntries? rest
      rw [literalEntries?, entriesMentionField, Bool.not_or, ← first, ← others]
      cases literal? entry <;> cases literalEntries? rest <;> rfl

end

theorem literal?_eq_none_iff {operand : Operand} :
    operand.literal? = none ↔ operand.mentionsField = true := by
  rw [← Option.not_isSome_iff_eq_none, isSome_literal?, Bool.not_eq_true', Bool.not_eq_false]

theorem exists_literal?_iff {operand : Operand} :
    (∃ value, operand.literal? = some value) ↔ operand.mentionsField = false := by
  rw [← Option.isSome_iff_exists, isSome_literal?, Bool.not_eq_true']

theorem requireLiteral_eq_ok_iff {operand : Operand} {field operator : String} {value : Json} :
    operand.requireLiteral field operator = .ok value ↔ operand.literal? = some value := by
  unfold requireLiteral
  cases operand.literal? <;> simp

end DocStore.Operand
