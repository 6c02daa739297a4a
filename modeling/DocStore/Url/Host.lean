import DocStore.Error
import DocStore.Text.Split
import DocStore.Url.Domain

/-! # Hosts

The host of a URL: a domain name, or an address of either internet protocol. Under a scheme that
is not special, a host is any text without delimiters.
-/

namespace DocStore.Url

inductive Host where
  | domain (name : String)
  /-- A 32-bit address. -/
  | ipv4 (address : Nat)
  /-- The eight 16-bit pieces of an address. -/
  | ipv6 (pieces : List Nat)
  deriving DecidableEq, Repr

/-- The number that digits of a radix stand for, if all of them are digits. -/
def digitsValue? (radix : Nat) : (digits : List Char) → (value : Nat) → Option Nat
  | [], value => some value
  | c :: rest, value =>
      match hexValue? c with
      | some digit =>
          if digit < radix then digitsValue? radix rest (value * radix + digit) else none
      | none => none

/-- The value of one number of a dotted address: hexadecimal after `0x`, octal after another
    leading zero, else decimal. -/
def ipv4Number? : List Char → Option Nat
  | [] => none
  | '0' :: 'x' :: digits => digitsValue? 16 digits 0
  | '0' :: 'X' :: digits => digitsValue? 16 digits 0
  | ['0'] => some 0
  | '0' :: digits => digitsValue? 8 digits 0
  | digits => digitsValue? 10 digits 0

/-- The parts of a dotted name, an empty last part being left out. -/
def dottedParts (name : List Char) : List (List Char) :=
  let parts := splitChars '.' name
  if 1 < parts.length && parts.getLast? == some [] then parts.dropLast else parts

/-- Whether a name must be a dotted address: its last part is a number. -/
def endsInNumber (name : List Char) : Bool :=
  match (dottedParts name).getLast? with
  | none => false
  | some last => (!last.isEmpty && last.all Char.isDigit) || (ipv4Number? last).isSome

/-- The address of dotted numbers: each but the last is one byte, and the last fills the
    rest. -/
def ipv4Address? (numbers : List Nat) : Option Nat :=
  match numbers.getLast? with
  | none => none
  | some last =>
      let bytes := numbers.dropLast
      let room := 8 * (4 - bytes.length)
      if 4 < numbers.length || bytes.any (255 < ·) || 1 <<< room ≤ last then none
      else
        some (bytes.foldl (fun acc byte => acc * 256 + byte) 0 <<< room + last)

def parseIpv4? (name : List Char) : Option Nat :=
  ((dottedParts name).mapM ipv4Number?).bind ipv4Address?

/-- The value of a piece of at most four hexadecimal digits. -/
def ipv6Piece? (digits : List Char) : Option Nat :=
  if digits.isEmpty || 4 < digits.length then none else digitsValue? 16 digits 0

/-- The byte of a decimal number without needless zeros. -/
def plainByte? (digits : List Char) : Option Nat :=
  if digits.isEmpty || (1 < digits.length && digits.head? == some '0') then none
  else (digitsValue? 10 digits 0).bind fun value => if value < 256 then some value else none

/-- The two pieces that four dotted bytes stand for at the end of an address. -/
def dottedPieces? (text : List Char) : Option (List Nat) :=
  match (splitChars '.' text).mapM plainByte? with
  | some [a, b, c, d] => some [a * 256 + b, c * 256 + d]
  | _ => none

/-- The pieces of one side of an address; dotted bytes may stand in for the last two. -/
def ipv6Side? : List (List Char) → Option (List Nat)
  | [] => some []
  | [last] =>
      if last.contains '.' then dottedPieces? last
      else (ipv6Piece? last).map fun piece => [piece]
  | digits :: rest =>
      match ipv6Piece? digits, ipv6Side? rest with
      | some piece, some pieces => some (piece :: pieces)
      | _, _ => none

/-- The two sides of the gap of an address, if it has one. -/
def splitGap? : List Char → Option (List Char × List Char)
  | ':' :: ':' :: rest => some ([], rest)
  | c :: rest => (splitGap? rest).map fun sides => (c :: sides.1, sides.2)
  | [] => none

/-- The pieces of one side, where an empty text has none. -/
def sidePieces? (text : List Char) : Option (List Nat) :=
  if text.isEmpty then some [] else ipv6Side? (splitChars ':' text)

/-- The pieces of an address between brackets. A gap stands for one zero piece or more. -/
def parseIpv6? (text : List Char) : Option (List Nat) :=
  match splitGap? text with
  | none => (sidePieces? text).bind fun pieces => if pieces.length = 8 then some pieces else none
  | some (front, back) =>
      if front.contains '.' then none
      else
        match sidePieces? front, sidePieces? back with
        | some fronts, some backs =>
            if 8 ≤ fronts.length + backs.length then none
            else
              some (fronts ++ List.replicate (8 - fronts.length - backs.length) 0 ++ backs)
        | _, _ => none

namespace Host

/-- Whether a host under a scheme that is not special must not contain a character. -/
def isForbidden (c : Char) : Bool :=
  ['\x00', '\t', '\n', '\r', ' ', '#', '/', ':', '<', '>', '?', '@', '[', '\\', ']', '^',
    '|'].contains c

/-- The address between brackets, if a text begins with one. -/
def bracketed? : List Char → Option (Except UrlFault Host)
  | '[' :: rest =>
      match rest.getLast?, parseIpv6? rest.dropLast with
      | some ']', some pieces => some (.ok (.ipv6 pieces))
      | _, _ => some (.error .invalidIpv6)
  | _ => none

/-- Read the host of a special scheme. -/
def parse (text : List Char) : Except UrlFault Host :=
  match bracketed? text with
  | some result => result
  | none =>
      match (textOfBytes? (unescape text)).bind fun name => domainToAscii? name.toList with
      | none => .error .invalidDomain
      | some name =>
          if name.isEmpty then .error .emptyHost
          else if endsInNumber name then
            match parseIpv4? name with
            | some address => .ok (.ipv4 address)
            | none => .error .invalidIpv4
          else .ok (.domain (String.ofList name))

/-- Read the host of any other scheme. -/
def parseOther (text : List Char) : Except UrlFault Host :=
  match bracketed? text with
  | some result => result
  | none =>
      if text.any isForbidden then .error .invalidDomainCharacter
      else .ok (.domain (String.ofList (escape controlSet text)))

/-- The digits of a piece, in lower case and without leading zeros. -/
def pieceDigits (piece : Nat) : List Char :=
  Nat.toDigits 16 piece

def leadingZeros (pieces : List Nat) : Nat :=
  (pieces.takeWhile (· == 0)).length

/-- The first longest run of at least two zero pieces: where it begins, and its length. -/
def longestGap (pieces : List Nat) : Option (Nat × Nat) :=
  (List.range pieces.length).foldl
    (fun best start =>
      let length := leadingZeros (pieces.drop start)
      if length < 2 then best
      else
        match best with
        | none => some (start, length)
        | some (_, longest) => if longest < length then some (start, length) else best)
    none

def piecesText (pieces : List Nat) : List Char :=
  [':'].intercalate (pieces.map pieceDigits)

/-- The written form of an address, its longest gap left out. -/
def ipv6Text (pieces : List Nat) : List Char :=
  match longestGap pieces with
  | none => piecesText pieces
  | some (start, length) =>
      piecesText (pieces.take start) ++ [':', ':'] ++ piecesText (pieces.drop (start + length))

def text : Host → List Char
  | .domain name => name.toList
  | .ipv4 address =>
      ['.'].intercalate <|
        [address >>> 24, address >>> 16 % 256, address >>> 8 % 256, address % 256].map
          DecimalLayout.digitChars
  | .ipv6 pieces => '[' :: (ipv6Text pieces ++ [']'])

end Host

end DocStore.Url
