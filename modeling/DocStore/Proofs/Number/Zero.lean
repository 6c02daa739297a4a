import DocStore.Json.Value
import Mathlib.Algebra.Group.Nat.Defs

/-! # Numbers that are zero

Rounding keeps every integer but zero away from zero, so that the double nearest to a number is
zero only if the number is.
-/

namespace DocStore

theorem roundHalfEven_pos {num den : Nat} (positive : 0 < den) (least : den ≤ num) :
    0 < roundHalfEven num den := by
  have quotient : 0 < num / den := Nat.div_pos least positive
  unfold roundHalfEven
  dsimp only
  split
  · exact quotient
  · split
    · exact Nat.succ_pos _
    · exact Nat.add_pos_left quotient _

/-- A positive number is at least one unit of its own scale, so that it is not rounded to zero. -/
theorem roundHalfEven_scaled_ne_zero {units : Nat} (positive : units ≠ 0) :
    roundHalfEven units (1 <<< (units.log2 - 52)) ≠ 0 := by
  have least : 2 ^ (units.log2 - 52) ≤ units :=
    calc
      2 ^ (units.log2 - 52) ≤ 2 ^ units.log2 :=
        Nat.pow_le_pow_right (by decide) (Nat.sub_le _ _)
      _ ≤ units := Nat.log2_self_le positive
  rw [Nat.one_shiftLeft]
  exact Nat.ne_of_gt (roundHalfEven_pos (Nat.two_pow_pos _) least)

namespace Binary64

theorem isZero_of_ofParts? {negative : Bool} {significand scale : Nat} {x : Binary64}
    (read : ofParts? negative significand scale = some x) (positive : significand ≠ 0) :
    x.isZero = false := by
  unfold ofParts? at read
  split at read
  · split at read <;> cases read
    rfl
  · split at read <;> cases read
    simpa [isZero] using positive

theorem ofParts?_scaled_isZero (negative : Bool) (units : Nat) :
    (ofParts? negative (roundHalfEven units (1 <<< (units.log2 - 52)))
      (units.log2 - 52)).any isZero = decide (units = 0) := by
  by_cases zero : units = 0
  · subst zero
    rfl
  · rw [decide_eq_false zero]
    cases read : ofParts? negative (roundHalfEven units (1 <<< (units.log2 - 52)))
      (units.log2 - 52) with
    | none => rfl
    | some x => exact isZero_of_ofParts? read (roundHalfEven_scaled_ne_zero zero)

theorem ofRatio?_isZero (negative : Bool) (n : Nat) :
    (ofRatio? negative n 1).any isZero = decide (n = 0) := by
  unfold ofRatio?
  simp only [Nat.div_one, ofParts?_scaled_isZero, Nat.shiftLeft_eq_zero_iff]

theorem ofInt?_isZero (value : Int) : (ofInt? value).any isZero = decide (value = 0) := by
  cases value with
  | ofNat n =>
      rw [ofInt?, ofRatio?_isZero]
      simp
  | negSucc n =>
      rw [ofInt?, ofRatio?_isZero]
      simp

end Binary64

/-- Whether a number is zero; a double may be a zero of either sign. -/
def JsonNumber.IsZero : JsonNumber → Prop
  | .integer value _ _ => value = 0
  | .double value => value.isZero = true

theorem JsonNumber.toDouble?_isZero (number : JsonNumber) :
    number.toDouble?.any Binary64.isZero = true ↔ number.IsZero := by
  cases number with
  | integer value lower upper =>
      rw [toDouble?, Binary64.ofInt?_isZero, decide_eq_true_eq]
      rfl
  | double value => rfl

end DocStore
