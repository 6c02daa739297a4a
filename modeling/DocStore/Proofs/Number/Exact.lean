import DocStore.Json.Value
import Mathlib.Algebra.Group.Nat.Defs

/-! # Doubles and integers compared

Doubles are the same number exactly when they are the same multiple of the smallest unit, and
every integer of the exchange range has a nearest double.
-/

namespace DocStore

theorem le_roundHalfEven (num den : Nat) : num / den ≤ roundHalfEven num den := by
  unfold roundHalfEven
  dsimp only
  split
  · exact Nat.le_refl _
  · split <;> exact Nat.le_add_right _ _

theorem roundHalfEven_le (num den : Nat) : roundHalfEven num den ≤ num / den + 1 := by
  unfold roundHalfEven
  dsimp only
  split
  · exact Nat.le_succ _
  · split
    · exact Nat.le_refl _
    · exact Nat.add_le_add_left (Nat.le_of_lt_succ (Nat.mod_lt _ (by decide))) _

namespace Binary64

/-- The double as a multiple of `2 ^ -1074`. -/
def signedUnits (x : Binary64) : Int :=
  if x.negative then -(x.units : Int) else x.units

theorem units_eq_zero_iff {x : Binary64} : x.units = 0 ↔ x.isZero = true := by
  rw [units, isZero, Nat.shiftLeft_eq_zero_iff, beq_iff_eq]

/-- A larger scale goes with a larger magnitude, because the leading bit is there. -/
theorem units_lt_of_scale_lt {x y : Binary64} (smaller : x.scale < y.scale) :
    x.units < y.units := by
  have bounded : x.significand < 2 ^ 53 := Nat.one_shiftLeft 53 ▸ x.significand_lt
  have leading : 2 ^ 52 ≤ y.significand :=
    Nat.one_shiftLeft 52 ▸ y.normal.resolve_left (Nat.ne_zero_of_lt smaller)
  rw [units, units, Nat.shiftLeft_eq, Nat.shiftLeft_eq]
  calc
    x.significand * 2 ^ x.scale < 2 ^ 53 * 2 ^ x.scale :=
      Nat.mul_lt_mul_of_pos_right bounded (Nat.two_pow_pos _)
    _ = 2 ^ 52 * 2 ^ (x.scale + 1) := by
      rw [← Nat.pow_add, ← Nat.pow_add, Nat.add_right_comm 52 1, Nat.add_assoc]
    _ ≤ 2 ^ 52 * 2 ^ y.scale :=
      Nat.mul_le_mul_left _ (Nat.pow_le_pow_right (by decide) smaller)
    _ ≤ y.significand * 2 ^ y.scale := Nat.mul_le_mul_right _ leading

theorem eq_of_units_eq {x y : Binary64} (sign : x.negative = y.negative)
    (same : x.units = y.units) : x = y := by
  have scales : x.scale = y.scale := by
    rcases Nat.lt_trichotomy x.scale y.scale with smaller | equal | greater
    · exact absurd same (Nat.ne_of_lt (units_lt_of_scale_lt smaller))
    · exact equal
    · exact absurd same (Nat.ne_of_gt (units_lt_of_scale_lt greater))
  have significands : x.significand = y.significand := by
    rw [units, units, scales, Nat.shiftLeft_eq, Nat.shiftLeft_eq] at same
    exact Nat.eq_of_mul_eq_mul_right (Nat.two_pow_pos _) same
  cases x
  cases y
  cases sign
  cases scales
  cases significands
  rfl

/-- Two doubles are the same number when they are the same multiple of the smallest unit. -/
theorem sameNumber_iff {x y : Binary64} :
    x.sameNumber y = true ↔ x.signedUnits = y.signedUnits := by
  rw [sameNumber, Bool.or_eq_true, Bool.and_eq_true, ← units_eq_zero_iff, ← units_eq_zero_iff,
    beq_iff_eq]
  constructor
  · rintro (⟨left, right⟩ | rfl)
    · simp [signedUnits, left, right]
    · rfl
  · intro same
    by_cases sign : x.negative = y.negative
    · refine .inr (eq_of_units_eq sign ?_)
      unfold signedUnits at same
      rw [sign] at same
      split at same <;> omega
    · -- Numbers of different signs agree only as zeros.
      refine .inl ?_
      unfold signedUnits at same
      cases left : x.negative <;> cases right : y.negative <;> rw [left, right] at sign same
      · exact absurd rfl sign
      · rw [if_neg Bool.false_ne_true, if_pos rfl] at same
        omega
      · rw [if_neg Bool.false_ne_true, if_pos rfl] at same
        omega
      · exact absurd rfl sign

/-- Whatever is rounded at its own scale has the leading bit, or the smallest scale. -/
theorem isSome_ofParts?_scaled (negative : Bool) {units : Nat} (bounded : units.log2 ≤ 2096) :
    (ofParts? negative (roundHalfEven units (1 <<< (units.log2 - 52)))
      (units.log2 - 52)).isSome = true := by
  have low := le_roundHalfEven units (1 <<< (units.log2 - 52))
  have high := roundHalfEven_le units (1 <<< (units.log2 - 52))
  generalize roundHalfEven units (1 <<< (units.log2 - 52)) = rounded at *
  rw [Nat.one_shiftLeft] at low high
  have below : units / 2 ^ (units.log2 - 52) < 2 ^ 53 := by
    rw [Nat.div_lt_iff_lt_mul (Nat.two_pow_pos _), ← Nat.pow_add]
    exact Nat.lt_of_lt_of_le Nat.lt_log2_self (Nat.pow_le_pow_right (by decide) (by omega))
  have leading : units.log2 - 52 = 0 ∨ 2 ^ 52 ≤ units / 2 ^ (units.log2 - 52) := by
    by_cases small : units.log2 ≤ 52
    · exact .inl (Nat.sub_eq_zero_of_le small)
    · refine .inr ?_
      rw [Nat.le_div_iff_mul_le (Nat.two_pow_pos _), ← Nat.pow_add,
        show 52 + (units.log2 - 52) = units.log2 by omega]
      exact Nat.log2_self_le fun zero => small (by rw [zero]; decide)
  unfold ofParts?
  split
  · rw [dif_pos (by omega)]
    rfl
  · rw [dif_pos ⟨by omega, by omega,
      leading.imp_right fun least => Nat.one_shiftLeft 52 ▸ Nat.le_trans least low⟩]
    rfl

theorem log2_shiftLeft_lt {n bits : Nat} (small : n < 2 ^ bits) (positive : 0 < bits)
    (places : Nat) : (n <<< places).log2 < bits + places := by
  by_cases zero : n = 0
  · subst zero
    rw [Nat.zero_shiftLeft, Nat.log2_zero]
    omega
  · rw [Nat.log2_lt (mt Nat.shiftLeft_eq_zero_iff.mp zero), Nat.shiftLeft_eq, Nat.pow_add]
    exact Nat.mul_lt_mul_of_pos_right small (Nat.two_pow_pos _)

theorem isSome_ofRatio? (negative : Bool) {n : Nat} (small : n < 2 ^ 65) :
    (ofRatio? negative n 1).isSome = true := by
  have bounded := log2_shiftLeft_lt small (by decide) 1074
  unfold ofRatio?
  dsimp only
  rw [Nat.div_one]
  exact isSome_ofParts?_scaled negative (by omega)

end Binary64

/-- Every number has a nearest double. -/
theorem JsonNumber.exists_toDouble? (number : JsonNumber) : ∃ x, number.toDouble? = some x := by
  rw [← Option.isSome_iff_exists]
  cases number with
  | integer value lower upper =>
      cases value with
      | ofNat n =>
          rw [Int.ofNat_eq_natCast] at upper
          exact Binary64.isSome_ofRatio? false (by omega)
      | negSucc n => exact Binary64.isSome_ofRatio? true (by omega)
  | double value => rfl

end DocStore
