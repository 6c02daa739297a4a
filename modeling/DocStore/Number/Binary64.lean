
/-! # Double-precision numbers

Finite doubles as exact multiples of `2 ^ -1074`, with one rounding operation from which
reading, conversion and arithmetic follow. Infinities and NaN are no values of the type: an
operation whose result is too large answers `none`.
-/

namespace DocStore

/-- The quotient `num / den` rounded to the nearest natural number; a half goes to the even
    neighbour. -/
def roundHalfEven (num den : Nat) : Nat :=
  let quotient := num / den
  let rest := num % den
  if 2 * rest < den then quotient
  else if den < 2 * rest then quotient + 1
  else quotient + quotient % 2

/-- A finite double `± significand · 2 ^ scale · 2 ^ -1074`. The bounds leave exactly one
    representation for each double, the two zeros being different doubles. -/
structure Binary64 where
  negative : Bool
  significand : Nat
  scale : Nat
  significand_lt : significand < 1 <<< 53
  scale_le : scale ≤ 2045
  /-- Only numbers of the smallest scale may lack the leading bit. -/
  normal : scale = 0 ∨ 1 <<< 52 ≤ significand
  deriving DecidableEq, Repr

namespace Binary64

def zero (negative : Bool) : Binary64 :=
  ⟨negative, 0, 0, by decide, by decide, .inl rfl⟩

instance : Inhabited Binary64 := ⟨zero false⟩

/-- The double with these parts, a significand of exactly `2 ^ 53` being carried into the
    scale; `none` if the parts exceed the largest double. -/
def ofParts? (negative : Bool) (significand scale : Nat) : Option Binary64 :=
  if significand = 1 <<< 53 then
    if h : scale + 1 ≤ 2045 then
      some ⟨negative, 1 <<< 52, scale + 1, by decide, h, .inr (Nat.le_refl _)⟩
    else none
  else if h : significand < 1 <<< 53 ∧ scale ≤ 2045 ∧ (scale = 0 ∨ 1 <<< 52 ≤ significand) then
    some ⟨negative, significand, scale, h.1, h.2.1, h.2.2⟩
  else none

/-- The double nearest to `± num / den`, a tie going to the even significand; `none` if that
    is beyond the largest double. -/
def ofRatio? (negative : Bool) (num den : Nat) : Option Binary64 :=
  let units := num <<< 1074
  let scale := (units / den).log2 - 52
  ofParts? negative (roundHalfEven units (den <<< scale)) scale

def ofNat? (n : Nat) : Option Binary64 :=
  ofRatio? false n 1

def ofInt? : Int → Option Binary64
  | .ofNat n => ofRatio? false n 1
  | .negSucc n => ofRatio? true (n + 1) 1

/-- The magnitude in units of `2 ^ -1074`. -/
def units (x : Binary64) : Nat :=
  x.significand <<< x.scale

def isZero (x : Binary64) : Bool :=
  x.significand == 0

/-- The same magnitude with the other sign. -/
def neg (x : Binary64) : Binary64 :=
  { x with negative := !x.negative }

def mul? (x y : Binary64) : Option Binary64 :=
  ofRatio? (x.negative != y.negative) (x.units * y.units) (1 <<< 2148)

/-- The rounded quotient; `none` for a zero divisor. -/
def div? (x y : Binary64) : Option Binary64 :=
  if y.isZero then none else ofRatio? (x.negative != y.negative) x.units y.units

/-- Whether two doubles are the same number: the zeros are equal to each other, and every
    other double only to itself. -/
def sameNumber (x y : Binary64) : Bool :=
  (x.isZero && y.isZero) || x == y

/-- The double nearest to `10 ^ k`. -/
def powerOfTen? (k : Nat) : Option Binary64 :=
  ofNat? (Nat.pow 10 k)

/-- The largest exponent of a power of ten that is a finite double. -/
def maxTenPower : Nat := 308

/-- Divide the given number of times by the largest finite power of ten. Zero stays zero. -/
def shrink? : (times : Nat) → Binary64 → Option Binary64
  | 0, x => some x
  | times + 1, x =>
      if x.isZero then some x
      else ((powerOfTen? maxTenPower).bind x.div?).bind (shrink? times)

/-- Divide by `10 ^ k`: rounded divisions by the largest finite power of ten as long as the
    remaining exponent exceeds it, and one last division by what remains. -/
def divTenPower? (x : Binary64) (k : Nat) : Option Binary64 :=
  let times := (k - 1) / maxTenPower
  (shrink? times x).bind fun y => (powerOfTen? (k - times * maxTenPower)).bind y.div?

/-- The double read for `significand · 10 ^ exponent`: the significand is rounded first, and
    then scaled by the power of ten in rounded steps. -/
def ofDecimal? (negative : Bool) (significand : Nat) (exponent : Int) : Option Binary64 :=
  let magnitude :=
    (ofNat? significand).bind fun x =>
      match exponent with
      | .ofNat k =>
          if k ≤ maxTenPower then (powerOfTen? k).bind x.mul?
          else if x.isZero then some x
          else none
      | .negSucc k => divTenPower? x (k + 1)
  magnitude.map fun x => if negative then x.neg else x

@[simp] theorem neg_neg (x : Binary64) : x.neg.neg = x := by
  simp [neg]

end Binary64

end DocStore
