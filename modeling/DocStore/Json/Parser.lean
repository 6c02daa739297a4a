import DocStore.Json.Value
import DocStore.Text.Digit

/-! # Reading JSON text

A strict reader: no trailing text, no lone surrogates, no raw controls in strings, and at most
127 arrays and objects inside each other. A repeated key keeps its first position and its last
value.
-/

namespace DocStore.Json

def isBlank (c : Char) : Bool :=
  c == ' ' || c == '\t' || c == '\n' || c == '\r'

def skipBlanks (input : List Char) : List Char :=
  input.dropWhile isBlank

/-- Where a string reader stands between two characters. -/
inductive StringState where
  | plain
  /-- After a backslash. -/
  | escape
  /-- Inside the four digits of a code unit, with the high surrogate it must complete, the
      number of digits left and the value so far. -/
  | unit (high : Option Nat) (left value : Nat)
  /-- After a high surrogate, whose low half must follow as an escape. -/
  | highRead (high : Nat)
  /-- After a high surrogate and a backslash. -/
  | highEscape (high : Nat)
  deriving DecidableEq, Repr

/-- What one character does to a string reader. -/
inductive StringStep where
  | finish
  | refuse
  | next (state : StringState)
  | emit (c : Char)
  deriving DecidableEq, Repr

/-- The character that a short escape stands for. -/
def shortEscape? (c : Char) : Option Char :=
  match c with
  | '"' => some '"'
  | '\\' => some '\\'
  | '/' => some '/'
  | 'b' => some '\x08'
  | 'f' => some '\x0c'
  | 'n' => some '\n'
  | 'r' => some '\r'
  | 't' => some '\t'
  | _ => none

/-- What a complete code unit does: a high surrogate waits for its other half, a pair and any
    other unit give a character, and surrogates that form no pair are refused. -/
def unitRead (high : Option Nat) (value : Nat) : StringStep :=
  match high with
  | some first =>
      if 0xDC00 ≤ value ∧ value ≤ 0xDFFF then
        .emit (Char.ofNat (0x10000 + (first - 0xD800) * 0x400 + (value - 0xDC00)))
      else .refuse
  | none =>
      if 0xD800 ≤ value ∧ value ≤ 0xDBFF then .next (.highRead value)
      else if 0xDC00 ≤ value ∧ value ≤ 0xDFFF then .refuse
      else .emit (Char.ofNat value)

/-- One character of a string after its opening quote. -/
def stringStep : StringState → Char → StringStep
  | .plain, c =>
      if c = '"' then .finish
      else if c = '\\' then .next .escape
      else if c.toNat < 32 then .refuse
      else .emit c
  | .escape, c =>
      if c = 'u' then .next (.unit none 4 0)
      else
        match shortEscape? c with
        | some d => .emit d
        | none => .refuse
  | .unit high left value, c =>
      match hexValue? c with
      | none => .refuse
      | some digit =>
          if left ≤ 1 then unitRead high (value * 16 + digit)
          else .next (.unit high (left - 1) (value * 16 + digit))
  | .highRead high, c => if c = '\\' then .next (.highEscape high) else .refuse
  | .highEscape high, c => if c = 'u' then .next (.unit (some high) 4 0) else .refuse

/-- The characters of a string up to its closing quote, and the text after it. -/
def readString : StringState → List Char → Option (List Char × List Char)
  | _, [] => none
  | state, c :: rest =>
      match stringStep state c with
      | .finish => some ([], rest)
      | .refuse => none
      | .next state => readString state rest
      | .emit d => (readString .plain rest).map fun (cs, after) => (d :: cs, after)

/-- The leading decimal digits and the text after them. -/
def readDigits : List Char → List Nat × List Char
  | [] => ([], [])
  | c :: rest =>
      match digitValue? c with
      | some digit => let (digits, after) := readDigits rest; (digit :: digits, after)
      | none => ([], c :: rest)

/-- Whether a significand stays within 64 bits when a digit is appended. -/
def digitFits (significand digit : Nat) : Bool :=
  significand * 10 + digit < UInt64.size

/-- Take integer digits into a significand as long as they fit, and count those that are left
    over. -/
def takeIntegerDigits : Nat → List Nat → Nat × Nat
  | significand, [] => (significand, 0)
  | significand, digit :: rest =>
      if digitFits significand digit then takeIntegerDigits (significand * 10 + digit) rest
      else (significand, rest.length + 1)

/-- Take fraction digits into a significand as long as they fit, and count those taken. The
    digits left over are dropped. -/
def takeFractionDigits : Nat → List Nat → Nat × Nat
  | significand, [] => (significand, 0)
  | significand, digit :: rest =>
      if digitFits significand digit then
        let (result, taken) := takeFractionDigits (significand * 10 + digit) rest
        (result, taken + 1)
      else (significand, 0)

def digitsValue (digits : List Nat) : Nat :=
  digits.foldl (fun acc digit => acc * 10 + digit) 0

/-- An exponent with its optional sign, which must have a digit. -/
def readExponent (input : List Char) : Option (Int × List Char) :=
  let (negative, afterSign) : Bool × List Char :=
    match input with
    | '+' :: rest => (false, rest)
    | '-' :: rest => (true, rest)
    | other => (false, other)
  match readDigits afterSign with
  | ([], _) => none
  | (digits, after) =>
      let size : Int := digitsValue digits
      some (if negative then -size else size, after)

def startsExponent : List Char → Bool
  | 'e' :: _ | 'E' :: _ => true
  | _ => false

/-- The double with these parts, as a number. -/
def doubleOf? (negative : Bool) (significand : Nat) (exponent : Int) : Option JsonNumber :=
  (Binary64.ofDecimal? negative significand exponent).map .double

/-- The number of an integer text. Minus zero and integers out of range are doubles. -/
def integerOf? (negative : Bool) (significand leftOver : Nat) : Option JsonNumber :=
  if leftOver ≠ 0 then doubleOf? negative significand leftOver
  else if negative then
    if significand = 0 then doubleOf? true 0 0
    else
      match JsonNumber.ofInt? (-significand) with
      | some n => some n
      | none => doubleOf? true significand 0
  else JsonNumber.ofInt? significand

/-- The exponent part if there is one, after what came before the exponent. -/
def finishDouble (negative : Bool) (significand : Nat) (exponent : Int) (input : List Char) :
    Option (JsonNumber × List Char) :=
  if startsExponent input then do
    let (written, after) ← readExponent (input.drop 1)
    let number ← doubleOf? negative significand (exponent + written)
    return (number, after)
  else do
    let number ← doubleOf? negative significand exponent
    return (number, input)

/-- A number: no leading zeros, and a digit after the point and after the exponent mark. A
    number too large for a double is refused. -/
def readNumber (input : List Char) : Option (JsonNumber × List Char) :=
  let (negative, unsigned) : Bool × List Char :=
    match input with
    | '-' :: rest => (true, rest)
    | other => (false, other)
  match readDigits unsigned with
  | ([], _) => none
  | (0 :: _ :: _, _) => none
  | (digits, after) =>
      let (significand, leftOver) := takeIntegerDigits 0 digits
      match after with
      | '.' :: afterPoint =>
          match readDigits afterPoint with
          | ([], _) => none
          | (fraction, rest) =>
              let (full, taken) := takeFractionDigits significand fraction
              finishDouble negative full (leftOver - taken) rest
      | other =>
          if startsExponent other then finishDouble negative significand leftOver other
          else (integerOf? negative significand leftOver).map fun n => (n, other)

/-- The text after a fixed word. -/
def expect (word input : List Char) : Option (List Char) :=
  if word.isPrefixOf input then some (input.drop word.length) else none

mutual

/-- One value and the text after it. The fuel bounds the steps, the depth the nesting. -/
def readValue : (fuel depth : Nat) → List Char → Option (Json × List Char)
  | 0, _, _ => none
  | fuel + 1, depth, input =>
      match skipBlanks input with
      | [] => none
      | '"' :: rest =>
          (readString .plain rest).map fun (cs, after) => (.string (String.ofList cs), after)
      | '[' :: rest =>
          match depth with
          | 0 => none
          | depth + 1 =>
              match skipBlanks rest with
              | ']' :: after => some (.array [], after)
              | inside => (readItems fuel depth inside).map fun (xs, after) => (.array xs, after)
      | '\x7b' :: rest =>
          match depth with
          | 0 => none
          | depth + 1 =>
              match skipBlanks rest with
              | '\x7d' :: after => some (.object [], after)
              | inside =>
                  (readMembers fuel depth inside).map fun (ms, after) =>
                    (.object (Members.ofPairs ms), after)
      | 'n' :: rest => (expect ['u', 'l', 'l'] rest).map fun after => (.null, after)
      | 't' :: rest => (expect ['r', 'u', 'e'] rest).map fun after => (.bool true, after)
      | 'f' :: rest => (expect ['a', 'l', 's', 'e'] rest).map fun after => (.bool false, after)
      | other => (readNumber other).map fun (n, after) => (.number n, after)

/-- The items of an array that has at least one, with the bracket that closes it. -/
def readItems : (fuel depth : Nat) → List Char → Option (List Json × List Char)
  | 0, _, _ => none
  | fuel + 1, depth, input => do
      let (item, after) ← readValue fuel depth input
      match skipBlanks after with
      | ']' :: rest => return ([item], rest)
      | ',' :: rest =>
          let (items, end') ← readItems fuel depth rest
          return (item :: items, end')
      | _ => none

/-- The members of an object that has at least one, with the brace that closes it. -/
def readMembers : (fuel depth : Nat) → List Char → Option (List (String × Json) × List Char)
  | 0, _, _ => none
  | fuel + 1, depth, input =>
      match skipBlanks input with
      | '"' :: keyText => do
          let (key, afterKey) ← readString .plain keyText
          match skipBlanks afterKey with
          | ':' :: valueText =>
              let (value, after) ← readValue fuel depth valueText
              match skipBlanks after with
              | '\x7d' :: rest => return ([(String.ofList key, value)], rest)
              | ',' :: rest =>
                  let (members, end') ← readMembers fuel depth rest
                  return ((String.ofList key, value) :: members, end')
              | _ => none
          | _ => none
      | _ => none

end

/-- The greatest number of arrays and objects inside each other. -/
def maxDepth : Nat := 127

/-- The value of a text that is one JSON value and nothing else. -/
def parse? (text : String) : Option Json :=
  let input := text.toList
  match readValue (2 * input.length + 2) maxDepth input with
  | some (value, rest) => if (skipBlanks rest).isEmpty then some value else none
  | none => none

end DocStore.Json
