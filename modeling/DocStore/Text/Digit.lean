/-! # Digits

Hexadecimal and decimal digits, and the numbers they stand for.
-/

namespace DocStore

/-- The lower-case hexadecimal digit of a number below 16. -/
def hexDigit (n : Nat) : Char :=
  if n < 10 then Char.ofNat (48 + n) else Char.ofNat (87 + n)

/-- The upper-case hexadecimal digit of a number below 16. -/
def upperHexDigit (n : Nat) : Char :=
  if n < 10 then Char.ofNat (48 + n) else Char.ofNat (55 + n)

/-- The value of a hexadecimal digit of either case. -/
def hexValue? (c : Char) : Option Nat :=
  if '0' ≤ c ∧ c ≤ '9' then some (c.toNat - 48)
  else if 'a' ≤ c ∧ c ≤ 'f' then some (c.toNat - 87)
  else if 'A' ≤ c ∧ c ≤ 'F' then some (c.toNat - 55)
  else none

def digitValue? (c : Char) : Option Nat :=
  if '0' ≤ c ∧ c ≤ '9' then some (c.toNat - 48) else none

/-- The lower-case hexadecimal digits of a number, exactly as many as asked for. -/
def hexDigits : (count : Nat) → Nat → List Char
  | 0, _ => []
  | count + 1, n => hexDigits count (n / 16) ++ [hexDigit (n % 16)]

/-- A digit stands for the number it was written for. -/
theorem hexValue?_hexDigit {n : Nat} (small : n < 16) : hexValue? (hexDigit n) = some n := by
  decide +revert

/-- A digit stands for the number it was written for, in upper case too. -/
theorem hexValue?_upperHexDigit {n : Nat} (small : n < 16) :
    hexValue? (upperHexDigit n) = some n := by
  decide +revert

/-- As many digits are written as are asked for. -/
@[simp] theorem hexDigits_length : ∀ count n, (hexDigits count n).length = count
  | 0, _ => rfl
  | count + 1, n => by simp [hexDigits, hexDigits_length count]

end DocStore
