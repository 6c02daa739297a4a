import DocStore.Text.Split
import DocStore.Unicode.Direction
import DocStore.Url.DomainCharacter
import DocStore.Url.Encoding

/-! # Domain names

The ASCII form of a domain name: letters in lower case, and each label with characters beyond
ASCII written in Punycode. Names that could be read as others are refused.
-/

namespace DocStore.Url

namespace Punycode

/-- The character of a digit below 36: letters first, then the decimal digits. -/
def digitChar (digit : Nat) : Char :=
  if digit < 26 then Char.ofNat (97 + digit) else Char.ofNat (22 + digit)

/-- The threshold of a digit's position, between 1 and 26. -/
def threshold (position bias : Nat) : Nat :=
  Nat.max 1 (Nat.min 26 (position - bias))

theorem one_le_threshold (position bias : Nat) : 1 ≤ threshold position bias :=
  Nat.le_max_left _ _

/-- Divide by 35 until at most 455 is left, counting 36 for each division. -/
def adaptSteps (delta count : Nat) : Nat × Nat :=
  if 455 < delta then adaptSteps (delta / 35) (count + 36) else (delta, count)
termination_by delta
decreasing_by exact Nat.div_lt_self (by omega) (by decide)

/-- The bias after a code point was written. -/
def adapt (delta written : Nat) (first : Bool) : Nat :=
  let damped := if first then delta / 700 else delta / 2
  let (rest, count) := adaptSteps (damped + damped / written) 0
  count + 36 * rest / (rest + 38)

/-- The digits of a number, the lowest first. -/
def numberDigits (bias position n : Nat) : List Char :=
  let t := threshold position bias
  if n < t then [digitChar n]
  else digitChar (t + (n - t) % (36 - t)) :: numberDigits bias (position + 36) ((n - t) / (36 - t))
termination_by n
decreasing_by
  have := one_le_threshold position bias
  exact Nat.lt_of_le_of_lt (Nat.div_le_self _ _) (by omega)

/-- The state of an encoder: what is written, the distance from the last code point, the bias
    and the number of code points that are written. -/
structure Progress where
  output : List Char
  delta : Nat
  bias : Nat
  written : Nat

/-- Pass one character of the label while code points equal to `target` are being written. -/
def pass (basic target : Nat) (progress : Progress) (c : Char) : Progress :=
  if c.toNat < target then { progress with delta := progress.delta + 1 }
  else if c.toNat = target then
    { output := progress.output ++ numberDigits progress.bias 36 progress.delta
      delta := 0
      bias := adapt progress.delta (progress.written + 1) (progress.written == basic)
      written := progress.written + 1 }
  else progress

/-- Write the code points beyond ASCII in increasing order. -/
def writeTargets (label : List Char) (basic : Nat) :
    (targets : List Nat) → (next : Nat) → Progress → Progress
  | [], _, progress => progress
  | target :: rest, next, progress =>
      let started :=
        { progress with delta := progress.delta + (target - next) * (progress.written + 1) }
      let passed := label.foldl (pass basic target) started
      writeTargets label basic rest (target + 1) { passed with delta := passed.delta + 1 }

/-- The encoded form of a label: its ASCII characters, and after a hyphen the digits that say
    which other characters go where. -/
def encode (label : List Char) : List Char :=
  let basic := label.filter fun c => c.toNat < 128
  let targets := ((label.filter fun c => 128 ≤ c.toNat).map Char.toNat).mergeSort.eraseDups
  let progress := writeTargets label basic.length targets 128 ⟨[], 0, 72, basic.length⟩
  basic ++ (if basic.isEmpty then [] else ['-']) ++ progress.output

def digitOf? (c : Char) : Option Nat :=
  if 'a' ≤ c ∧ c ≤ 'z' then some (c.toNat - 97)
  else if '0' ≤ c ∧ c ≤ '9' then some (c.toNat - 22)
  else none

/-- Add a number to another one, digit by digit, and give the text after it. -/
def readNumber (bias position weight number : Nat) : List Char → Option (Nat × List Char)
  | [] => none
  | c :: rest => do
      let digit ← digitOf? c
      let t := threshold position bias
      let number := number + digit * weight
      if digit < t then some (number, rest)
      else readNumber bias (position + 36) (weight * (36 - t)) number rest

/-- Insert the characters that digits name into a label. The fuel bounds the number of these
    characters, each of which takes a digit or more. -/
def insertNamed : (fuel : Nat) → (target place bias : Nat) → (label : List Char) →
    (digits : List Char) → Option (List Char)
  | _, _, _, _, label, [] => some label
  | 0, _, _, _, _, _ => none
  | fuel + 1, target, place, bias, label, digits => do
      let (number, rest) ← readNumber bias 36 1 place digits
      let length := label.length + 1
      let target := target + number / length
      if target < 0xD800 ∨ (0xDFFF < target ∧ target < 0x110000) then
        insertNamed fuel target (number % length + 1) (adapt (number - place) length (place == 0))
          (label.insertIdx (number % length) (Char.ofNat target)) rest
      else none

/-- The label that an encoded form stands for: before the last hyphen its ASCII characters, and
    after it the digits for the others. -/
def decode? (text : List Char) : Option (List Char) :=
  let digits := (text.reverse.takeWhile (· != '-')).reverse
  let basic := text.take (text.length - digits.length - 1)
  if digits.length < text.length ∧ basic.isEmpty then none
  else insertNamed digits.length 128 0 72 basic digits

end Punycode

open DocStore.Unicode

/-- Whether a domain name must not contain a character. -/
def isForbiddenInDomain (c : Char) : Bool :=
  c.toNat ≤ 32 || c.toNat == 127 ||
    ['%', '#', '/', ':', '<', '>', '?', '@', '[', '\\', ']', '^', '|'].contains c

def isAsciiText (text : List Char) : Bool :=
  text.all fun c => c.toNat < 128

/-- Whether each joiner of a label has an effect: after a mark that kills a vowel or, for the
    joiner that separates, between letters that would join. What comes before is given from
    the last character on. -/
def joinersFit : (before : List Char) → List Char → Bool
  | _, [] => true
  | before, c :: rest =>
      let followsKiller :=
        match before with
        | [] => false
        | last :: _ => combiningClass last.toNat == 9
      let reaches (text : List Char) (letters : CharSet) : Bool :=
        match text.dropWhile joiningTransparent.contains with
        | [] => false
        | letter :: _ => joiningBothSides.contains letter || letters.contains letter
      let fits :=
        if c.toNat = 0x200C then
          followsKiller || (reaches before joiningAfter && reaches rest joiningBefore)
        else if c.toNat = 0x200D then followsKiller
        else true
      fits && joinersFit (c :: before) rest

/-- Whether a domain name may hold a label that is in its mapped form: it does not begin with a
    combining mark, and its joiners have an effect. -/
def isValidLabel (label : List Char) : Bool :=
  !label.head?.any marks.contains && joinersFit [] label

def isLeftToRight (c : Char) : Bool :=
  [rightToLeft, arabicNumbers, europeanNumbers, neutralCharacters, nonspacingMarks].all
    fun set => !set.contains c

/-- Whether the characters of a label run in one direction: that of its first one, which is no
    number. At its end a number may stand. -/
def directionFits : List Char → Bool
  | [] => true
  | first :: rest =>
      let last := (((first :: rest).reverse.dropWhile nonspacingMarks.contains).head?).getD first
      let isPlain (c : Char) : Bool :=
        europeanNumbers.contains c || neutralCharacters.contains c || nonspacingMarks.contains c
      if rightToLeft.contains first then
        (rest.all fun c => isPlain c || rightToLeft.contains c || arabicNumbers.contains c) &&
          (rightToLeft.contains last || arabicNumbers.contains last ||
            europeanNumbers.contains last) &&
          !(rest.any europeanNumbers.contains && rest.any arabicNumbers.contains)
      else
        isLeftToRight first && (rest.all fun c => isPlain c || isLeftToRight c) &&
          (isLeftToRight last || europeanNumbers.contains last)

/-- The label that a mapped label stands for: another one if it is in encoded form, which has to
    be the form of a label that is not ASCII and is mapped already. -/
def readLabel? (label : List Char) : Option (List Char) :=
  match label with
  | 'x' :: 'n' :: '-' :: '-' :: encoded => do
      let decoded ← if isAsciiText encoded then Punycode.decode? encoded else none
      let codes := decoded.map Char.toNat
      if !isAsciiText decoded && domainMapped? codes == some codes &&
          !decoded.any (fun c => c == '.' || isForbiddenInDomain c) then some decoded
      else none
  | _ => some label

def encodeLabel (label : List Char) : List Char :=
  if isAsciiText label then label else ['x', 'n', '-', '-'] ++ Punycode.encode label

/-- The ASCII form of a domain name. A name has none if it holds a character that may not occur,
    if a label is not valid, or if there is a character that runs from right to left or an
    Arabic number and the characters of some label do not run in one direction. -/
def domainToAscii? (name : List Char) : Option (List Char) := do
  let mapped := (← domainMapped? (name.map Char.toNat)).map Char.ofNat
  let labels ← (splitChars '.' mapped).mapM readLabel?
  let isBidirectional :=
    labels.any fun label => label.any fun c => rightToLeft.contains c || arabicNumbers.contains c
  if !mapped.any isForbiddenInDomain && labels.all isValidLabel &&
      (!isBidirectional || labels.all directionFits) then
    some (['.'].intercalate (labels.map encodeLabel))
  else none

end DocStore.Url
