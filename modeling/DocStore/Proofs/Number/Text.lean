import DocStore.Json.Printer
import DocStore.Proofs.Reference

/-! # Texts of numbers

The text of every number can be a segment of a path: it has characters, and they are digits, signs,
points and exponent marks.
-/

namespace DocStore

namespace DecimalLayout

theorem digitChars_ne_nil (n : Nat) : digitChars n ≠ [] :=
  Nat.toDigits_ne_nil

theorem slash_notMem_digitChars (n : Nat) : '/' ∉ digitChars n := by
  intro inside
  have isDigit : '/'.isDigit = true := Nat.isDigit_of_mem_toDigits (by decide) (by decide) inside
  cases isDigit

theorem slash_notMem_positional {digits : List Char} (free : '/' ∉ digits) (leading : Int) :
    '/' ∉ positional digits leading := by
  unfold positional
  split
  next => simp [free]
  next =>
      dsimp only
      split
      next => simp [free]
      next =>
          have before : '/' ∉ digits.take (leading.toNat + 1) := fun inside =>
            free (List.mem_of_mem_take inside)
          have after : '/' ∉ digits.drop (leading.toNat + 1) := fun inside =>
            free (List.mem_of_mem_drop inside)
          simp [before, after]

theorem slash_notMem_exponential {digits : List Char} (free : '/' ∉ digits) (leading : Int) :
    '/' ∉ exponential digits leading := by
  have exponent := slash_notMem_digitChars leading.natAbs
  have sign : '/' ≠ if leading < 0 then '-' else '+' := by split <;> decide
  unfold exponential
  dsimp only
  split
  next first second rest => simp_all
  next => simp [free, exponent, sign]

theorem positional_ne_nil (digits : List Char) (leading : Int) :
    positional digits leading ≠ [] := by
  unfold positional
  split
  next => simp
  next => dsimp only; split <;> simp

theorem exponential_ne_nil (digits : List Char) (leading : Int) :
    exponential digits leading ≠ [] := by
  simp [exponential]

theorem slash_notMem_text (layout : DecimalLayout) (value : Binary64) :
    '/' ∉ layout.text value := by
  have digits := slash_notMem_digitChars value.shortest.digits
  unfold text
  dsimp only
  split <;> split <;> simp [slash_notMem_positional digits, slash_notMem_exponential digits]

theorem text_ne_nil (layout : DecimalLayout) (value : Binary64) : layout.text value ≠ [] := by
  unfold text
  dsimp only
  split <;> split <;> simp [positional_ne_nil, exponential_ne_nil]

end DecimalLayout

/-- The text of a number can be a segment of a path. -/
theorem JsonNumber.isSegment_text (number : JsonNumber) :
    isSegment (String.ofList number.text) = true := by
  rw [isSegment_iff, String.toList_ofList]
  unfold text
  split
  next n _ _ => exact ⟨DecimalLayout.digitChars_ne_nil n, DecimalLayout.slash_notMem_digitChars n⟩
  next n _ _ => simp [DecimalLayout.slash_notMem_digitChars]
  next value =>
      exact ⟨DecimalLayout.text_ne_nil _ value, DecimalLayout.slash_notMem_text _ value⟩

end DocStore
