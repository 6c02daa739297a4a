import DocStore.Number.Binary64

/-! # Decimal text of doubles

The fewest digits that read back to a double, and how a list of digits with a decimal exponent
is laid out as text.
-/

namespace DocStore

/-- The decimal number `digits · 10 ^ exponent`. -/
structure Decimal where
  digits : Nat
  exponent : Int
  deriving DecidableEq, Repr

namespace Decimal

/-- Remove trailing zeros of the digits, raising the exponent for each. The fuel bounds the
    number of digits. -/
def normalizeWithin : Nat → Decimal → Decimal
  | 0, d => d
  | fuel + 1, d =>
      if d.digits ≠ 0 ∧ d.digits % 10 = 0 then
        normalizeWithin fuel ⟨d.digits / 10, d.exponent + 1⟩
      else d

/-- The same number without trailing zeros. -/
def normalize (d : Decimal) : Decimal :=
  normalizeWithin (Nat.toDigits 10 d.digits).length d

end Decimal

namespace Binary64

/-- The open or closed interval of magnitudes that round to a double, in quarter units of
    `2 ^ -1074`. Its ends belong to it exactly when the significand is even. -/
structure Rounding where
  low : Nat
  value : Nat
  high : Nat
  closed : Bool
  deriving DecidableEq, Repr

/-- The interval around a double. Below a power of two the spacing is half as wide. -/
def rounding (x : Binary64) : Rounding :=
  let unit := 1 <<< x.scale
  let below := if x.significand = 1 <<< 52 ∧ 0 < x.scale then unit else 2 * unit
  ⟨4 * x.units - below, 4 * x.units, 4 * x.units + 2 * unit, x.significand % 2 = 0⟩

/-- Whether the fraction `num / den`, in the interval's units, rounds to its double. -/
def Rounding.contains (r : Rounding) (num den : Nat) : Bool :=
  if r.closed then r.low * den ≤ num && num ≤ r.high * den
  else r.low * den < num && num < r.high * den

/-- The nearer of the two neighbours of the double on the grid of multiples of
    `10 ^ exponent`, if one of them reads back to it; of two equally near ones the even one. -/
def Rounding.onGrid? (r : Rounding) (exponent : Int) : Option Decimal :=
  -- A multiple `d` of the grid step is `d * stepNum / stepDen` in the interval's units.
  let (stepNum, stepDen) : Nat × Nat :=
    match exponent with
    | .ofNat k => (Nat.pow 10 k <<< 1076, 1)
    | .negSucc k => (1 <<< 1076, Nat.pow 10 (k + 1))
  let down := r.value * stepDen / stepNum
  let up := down + 1
  let fits (d : Nat) : Bool := r.contains (d * stepNum) stepDen
  let toDown := r.value * stepDen - down * stepNum
  let toUp := up * stepNum - r.value * stepDen
  if fits down && fits up then
    if toDown < toUp then some ⟨down, exponent⟩
    else if toUp < toDown then some ⟨up, exponent⟩
    else some ⟨if down % 2 = 0 then down else up, exponent⟩
  else if fits down then some ⟨down, exponent⟩
  else if fits up then some ⟨up, exponent⟩
  else none

/-- The decimal exponent of the leading digit of a positive magnitude. -/
def leadingExponent (x : Binary64) : Int :=
  let whole := x.units >>> 1074
  if whole ≠ 0 then (Nat.toDigits 10 whole).length - 1
  else
    -- The digits of `x · 10 ^ 400` left of the point tell the leading place.
    let shifted := (x.units * Nat.pow 10 400) >>> 1074
    ((Nat.toDigits 10 shifted).length : Int) - 401

/-- The first grid among those of 1, 2, …, 17 significant digits that has a number which reads
    back to the double. -/
def shortestFrom (r : Rounding) (leading : Int) : (digits left : Nat) → Option Decimal
  | _, 0 => none
  | digits, left + 1 =>
      match r.onGrid? (leading + 1 - digits) with
      | some d => some d.normalize
      | none => shortestFrom r leading (digits + 1) left

/-- The decimal of fewest digits that reads back to the magnitude of a double; among those the
    nearest to it. -/
def shortest (x : Binary64) : Decimal :=
  if x.isZero then ⟨0, 0⟩
  else (shortestFrom x.rounding x.leadingExponent 1 17).getD ⟨0, 0⟩

end Binary64

/-- How a double is written. -/
structure DecimalLayout where
  /-- The least leading exponent that is written positionally. -/
  leastPositional : Int
  /-- The least leading exponent above those written positionally. -/
  exponentialFrom : Int
  deriving DecidableEq, Repr

namespace DecimalLayout

/-- The digits of a natural number in base ten. -/
def digitChars (n : Nat) : List Char :=
  Nat.toDigits 10 n

/-- Positional text: a point always, and at least one digit on each side of it. -/
def positional (digits : List Char) (leading : Int) : List Char :=
  if leading < 0 then
    '0' :: '.' :: (List.replicate ((-leading).toNat - 1) '0' ++ digits)
  else
    let whole := leading.toNat + 1
    if digits.length ≤ whole then
      digits ++ List.replicate (whole - digits.length) '0' ++ ['.', '0']
    else digits.take whole ++ '.' :: digits.drop whole

/-- Exponential text: one digit before the point, no point after a lone digit, and the sign of
    the exponent always written. -/
def exponential (digits : List Char) (leading : Int) : List Char :=
  let mantissa :=
    match digits with
    | first :: second :: rest => first :: '.' :: second :: rest
    | short => short
  let sign := if leading < 0 then '-' else '+'
  mantissa ++ 'e' :: sign :: digitChars leading.natAbs

def text (layout : DecimalLayout) (x : Binary64) : List Char :=
  let d := x.shortest
  let digits := digitChars d.digits
  let leading := d.exponent + digits.length - 1
  let magnitude :=
    if layout.leastPositional ≤ leading ∧ leading < layout.exponentialFrom then
      positional digits leading
    else exponential digits leading
  if x.negative then '-' :: magnitude else magnitude

end DecimalLayout

end DocStore
