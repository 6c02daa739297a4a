import DocStore.Json.Value
import DocStore.Number.Decimal
import DocStore.Text.Digit

/-! # JSON text

The compact text of a value: no blanks, members in order, and as little escaping as JSON
allows.
-/

namespace DocStore

/-- Doubles are written positionally from `0.00001` up to below `10 ^ 16`, always with a
    fraction, and in exponential form outside of that. -/
def Json.doubleLayout : DecimalLayout := ⟨-5, 16⟩

namespace JsonNumber

def text : JsonNumber → List Char
  | .integer (.ofNat n) _ _ => DecimalLayout.digitChars n
  | .integer (.negSucc n) _ _ => '-' :: DecimalLayout.digitChars (n + 1)
  | .double value => Json.doubleLayout.text value

end JsonNumber

namespace Json

/-- One character of a string's text. Quotes, backslashes and controls below U+0020 are
    escaped, with the short form where JSON has one; everything else stands for itself. -/
def escapeChar (c : Char) : List Char :=
  if c = '"' then ['\\', '"']
  else if c = '\\' then ['\\', '\\']
  else if c = '\x08' then ['\\', 'b']
  else if c = '\t' then ['\\', 't']
  else if c = '\n' then ['\\', 'n']
  else if c = '\x0c' then ['\\', 'f']
  else if c = '\r' then ['\\', 'r']
  else if c.toNat < 32 then
    ['\\', 'u', '0', '0', hexDigit (c.toNat / 16), hexDigit (c.toNat % 16)]
  else [c]

def quoted (s : String) : List Char :=
  '"' :: (s.toList.flatMap escapeChar ++ ['"'])

mutual

def chars : Json → List Char
  | .null => ['n', 'u', 'l', 'l']
  | .bool true => ['t', 'r', 'u', 'e']
  | .bool false => ['f', 'a', 'l', 's', 'e']
  | .number n => n.text
  | .string s => quoted s
  | .array items => '[' :: (itemChars items ++ [']'])
  | .object members => '\x7b' :: (memberChars members ++ ['\x7d'])
termination_by structural value => value

/-- The texts of items, separated by commas. -/
def itemChars : List Json → List Char
  | [] => []
  | item :: rest =>
      chars item ++
        match rest with
        | [] => []
        | _ :: _ => ',' :: itemChars rest
termination_by structural items => items

def memberChars : List (String × Json) → List Char
  | [] => []
  | (key, value) :: rest =>
      quoted key ++ ':' :: chars value ++
        match rest with
        | [] => []
        | _ :: _ => ',' :: memberChars rest
termination_by structural members => members

end

/-- The compact text of a value. -/
def text (value : Json) : String :=
  String.ofList value.chars

end Json

end DocStore
