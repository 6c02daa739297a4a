import DocStore.Text.Digit

/-! # Percent-encoding

How texts are written inside a URL. Each part of a URL has a set of characters that are written
as the percent escapes of their UTF-8 bytes; a query's pairs are written as a form instead.
-/

namespace DocStore.Url

/-- A set of characters that a part of a URL escapes. -/
abbrev EscapeSet := Char → Bool

/-- Controls and everything beyond ASCII. -/
def controlSet : EscapeSet := fun c => c.toNat < 32 || 126 < c.toNat

def fragmentSet : EscapeSet := fun c => controlSet c || [' ', '"', '<', '>', '\x60'].contains c

/-- What a query escapes; the apostrophe only under a special scheme. -/
def querySet (special : Bool) : EscapeSet := fun c =>
  controlSet c || [' ', '"', '#', '<', '>'].contains c || (special && c == '\x27')

/-- What the path of a written URL escapes. An escape that is already there stays. -/
def pathSet : EscapeSet := fun c => fragmentSet c || ['#', '?', '\x7b', '\x7d'].contains c

/-- What a segment that is appended to a path escapes: all that could end it, and the escape
    mark itself. -/
def segmentSet (special : Bool) : EscapeSet := fun c =>
  pathSet c || c == '/' || c == '%' || (special && c == '\\')

/-- What a user name and a password escape. -/
def userinfoSet : EscapeSet := fun c =>
  pathSet c || ['/', ':', ';', '=', '@', '[', '\\', ']', '^', '|'].contains c

def escapeByte (byte : UInt8) : List Char :=
  ['%', upperHexDigit (byte.toNat / 16), upperHexDigit (byte.toNat % 16)]

def escapeChar (c : Char) : List Char :=
  (String.utf8EncodeChar c).flatMap escapeByte

def escape (set : EscapeSet) (text : List Char) : List Char :=
  text.flatMap fun c => if set c then escapeChar c else [c]

/-- The byte of two hexadecimal digits. -/
def escapedByte? (high low : Char) : Option UInt8 :=
  match hexValue? high, hexValue? low with
  | some h, some l => some (UInt8.ofNat (16 * h + l))
  | _, _ => none

/-- The bytes of a text, its escapes being resolved. A percent sign without two digits stands
    for itself. -/
def unescape : List Char → List UInt8
  | [] => []
  | '%' :: high :: low :: rest =>
      match escapedByte? high low with
      | some byte => byte :: unescape rest
      | none => String.utf8EncodeChar '%' ++ unescape (high :: low :: rest)
  | c :: rest => String.utf8EncodeChar c ++ unescape rest

/-- The text of UTF-8 bytes. -/
def textOfBytes? (bytes : List UInt8) : Option String :=
  String.fromUTF8? (ByteArray.mk bytes.toArray)

/-- Whether a character stands for itself in a form. -/
def isFormSafe (c : Char) : Bool :=
  c.isAlphanum || ['*', '-', '.', '_'].contains c

/-- A text as it is written in a form: a space is a plus sign, and what is not safe is
    escaped. -/
def formEscape (text : List Char) : List Char :=
  text.flatMap fun c =>
    if c = ' ' then ['+'] else if isFormSafe c then [c] else escapeChar c

/-- A pair as it is written in a form. -/
def formPair (key value : String) : List Char :=
  formEscape key.toList ++ '=' :: formEscape value.toList

end DocStore.Url
