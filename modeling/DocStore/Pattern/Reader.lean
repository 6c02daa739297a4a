import DocStore.Pattern.Part
import DocStore.Text.Digit

/-! # Reading patterns

The parts of a pattern from its text: characters, escapes, classes in brackets, groups with
flags, alternatives, anchors and repetitions. Patterns that look ahead, look behind or refer back
to a group are refused, and so is everything malformed.

While the verbose flag is on, blanks and comments may stand nearly everywhere, also inside of
classes and of many escapes.
-/

namespace DocStore

namespace PatternPart

/-- The text after blanks, and after comments, which run from a number sign to the end of the
    line. -/
def afterBlanks : (inComment : Bool) → List Char → List Char
  | _, [] => []
  | true, c :: rest => afterBlanks (c != '\n') rest
  | false, c :: rest =>
      if isBlank c then afterBlanks false rest
      else if c = '#' then afterBlanks true rest
      else c :: rest

/-- The text after what the verbose flag allows to stand there. -/
def skipped (verbose : Bool) (input : List Char) : List Char :=
  if verbose then afterBlanks false input else input

/-- The character that decides about a hyphen in a class: the one that comes next after blanks
    and at most one number sign. -/
def nextInClass? (verbose : Bool) (input : List Char) : Option Char :=
  if verbose then
    match input.dropWhile isBlank with
    | '#' :: rest => (rest.dropWhile isBlank).head?
    | rest => rest.head?
  else input.head?

/-- The text in braces after the opening one, without blanks and comments in verbose patterns,
    and the text after the closing one. -/
def readBraced (verbose : Bool) :
    (inComment : Bool) → (inside : List Char) → List Char → Option (List Char × List Char)
  | _, _, [] => none
  | true, inside, c :: rest => readBraced verbose (c != '\n') inside rest
  | false, inside, c :: rest =>
      if verbose && isBlank c then readBraced verbose false inside rest
      else if verbose && c == '#' then readBraced verbose true inside rest
      else if c = '\x7d' then some (inside.reverse, rest)
      else readBraced verbose false (c :: inside) rest

/-- The character of a code point, unless it is a surrogate or out of range. -/
def charOf? (code : Nat) : Option Char :=
  if code < 0xD800 ∨ (0xDFFF < code ∧ code < 0x110000) then some (Char.ofNat code) else none

/-- The number that as many hexadecimal digits as asked for write. -/
def readHexDigits (verbose : Bool) :
    (count : Nat) → (number : Nat) → List Char → Option (Nat × List Char)
  | 0, number, input => some (number, input)
  | count + 1, number, input =>
      match skipped verbose input with
      | [] => none
      | c :: rest => do readHexDigits verbose count (number * 16 + (← hexValue? c)) rest

/-- The number that hexadecimal digits write, if all are digits and there are some. -/
def hexNumber? (digits : List Char) : Option Nat :=
  if digits.isEmpty then none
  else digits.foldlM (fun number c => (hexValue? c).map (number * 16 + ·)) 0

/-- The character of a numeric escape with the given number of digits, or with digits in
    braces. -/
def readCode (verbose : Bool) (count : Nat) (input : List Char) :
    Option (WrittenChar × List Char) :=
  match skipped verbose input with
  | '\x7b' :: rest => do
      let (inside, after) ← readBraced verbose false [] rest
      return (⟨← charOf? (← hexNumber? inside), false⟩, after)
  | input => do
      let (code, after) ← readHexDigits verbose count 0 input
      return (⟨← charOf? code, count == 2⟩, after)

/-- The text before and after the first place where a mark stands. -/
def cutAtMark (mark : List Char) : List Char → Option (List Char × List Char)
  | [] => none
  | c :: rest =>
      if mark.isPrefixOf (c :: rest) then some ([], (c :: rest).drop mark.length)
      else (cutAtMark mark rest).map fun (before, after) => (c :: before, after)

/-- The name of a property in braces. A value is set off by an equals sign or a colon; the sign
    for "unequal" is read too, but does not exclude the value. -/
def propertyName (inside : List Char) : PropertyName :=
  match (cutAtMark ['!', '='] inside).or ((cutAtMark [':'] inside).or (cutAtMark ['='] inside)) with
  | some (name, value) => .valued name value
  | none => .single inside

/-- The property after the letter of its escape: one letter, or a name in braces. -/
def readProperty (verbose : Bool) (input : List Char) : Option (PropertyName × List Char) :=
  match skipped verbose input with
  | [] => none
  | '\x7b' :: rest =>
      (readBraced verbose false [] rest).map fun (inside, after) => (propertyName inside, after)
  | c :: rest => if c = '\\' then none else some (.single [c], rest)

/-- What an escape stands for. -/
inductive Escape where
  | char (written : WrittenChar)
  | shorthand (kind : Shorthand) (negated : Bool)
  | property (name : PropertyName) (negated : Bool)
  | place (position : WrittenPlace)
  deriving DecidableEq, Repr

/-- Whether a character can be escaped to stand for itself: every ASCII character that is no
    letter, no digit and no angle bracket. -/
def isEscapable (c : Char) : Bool :=
  c.toNat < 128 && !c.isAlphanum && c != '<' && c != '>'

def isEdgeNameChar (c : Char) : Bool :=
  c.isAlpha || c == '-'

/-- The edge of a word after its letter. A name in braces may follow; braces with anything but
    a letter or a hyphen at their start are left to a repetition. -/
def readWordEdge (verbose : Bool) (input : List Char) : Option (WordEdge × List Char) :=
  match input with
  | '\x7b' :: rest => do
      let c ← (skipped verbose rest).head?
      if isEdgeNameChar c then do
        let (name, after) ← readBraced verbose false [] rest
        match String.ofList name with
        | "start" => some (.start, after)
        | "end" => some (.stop, after)
        | "start-half" => some (.startHalf, after)
        | "end-half" => some (.stopHalf, after)
        | _ => none
      else some (.either, input)
  | _ => some (.either, input)

def readEscape (verbose : Bool) : List Char → Option (Escape × List Char)
  | [] => none
  | c :: rest =>
      let plain (char : Char) : Option (Escape × List Char) :=
        some (.char ⟨char, false⟩, rest)
      let code (count : Nat) : Option (Escape × List Char) :=
        (readCode verbose count rest).map fun (written, after) => (.char written, after)
      match c with
      | 'd' => some (.shorthand .digit false, rest)
      | 'D' => some (.shorthand .digit true, rest)
      | 's' => some (.shorthand .blank false, rest)
      | 'S' => some (.shorthand .blank true, rest)
      | 'w' => some (.shorthand .word false, rest)
      | 'W' => some (.shorthand .word true, rest)
      | 'p' => (readProperty verbose rest).map fun (name, after) => (.property name false, after)
      | 'P' => (readProperty verbose rest).map fun (name, after) => (.property name true, after)
      | 'x' => code 2
      | 'u' => code 4
      | 'U' => code 8
      | 'a' => plain '\x07'
      | 'f' => plain '\x0c'
      | 'n' => plain '\n'
      | 'r' => plain '\r'
      | 't' => plain '\t'
      | 'v' => plain '\x0b'
      | 'A' => some (.place .textStart, rest)
      | 'z' => some (.place .textEnd, rest)
      | 'b' => (readWordEdge verbose rest).map fun (edge, after) => (.place (.word edge), after)
      | 'B' => some (.place (.word .neither), rest)
      | '<' => some (.place (.word .start), rest)
      | '>' => some (.place (.word .stop), rest)
      | _ => if isEscapable c then plain c else none

def asciiClass? (name : String) : Option CharSet :=
  let ranges (bounds : List (Nat × Nat)) : Option CharSet :=
    some ⟨bounds.map fun (first, last) => ⟨first, last⟩⟩
  match name with
  | "alnum" => ranges [(0x30, 0x39), (0x41, 0x5A), (0x61, 0x7A)]
  | "alpha" => ranges [(0x41, 0x5A), (0x61, 0x7A)]
  | "ascii" => ranges [(0, 0x7F)]
  | "blank" => ranges [(9, 9), (0x20, 0x20)]
  | "cntrl" => ranges [(0, 0x1F), (0x7F, 0x7F)]
  | "digit" => ranges [(0x30, 0x39)]
  | "graph" => ranges [(0x21, 0x7E)]
  | "lower" => ranges [(0x61, 0x7A)]
  | "print" => ranges [(0x20, 0x7E)]
  | "punct" => ranges [(0x21, 0x2F), (0x3A, 0x40), (0x5B, 0x60), (0x7B, 0x7E)]
  | "space" => ranges [(9, 13), (0x20, 0x20)]
  | "upper" => ranges [(0x41, 0x5A)]
  | "word" => ranges [(0x30, 0x39), (0x41, 0x5A), (0x5F, 0x5F), (0x61, 0x7A)]
  | "xdigit" => ranges [(0x30, 0x39), (0x41, 0x46), (0x61, 0x66)]
  | _ => none

/-- A class such as `[:alpha:]` or `[:^alpha:]` after its opening bracket. What has not this
    form is read as an ordinary class. -/
def readAsciiClass : List Char → Option (ClassPart × List Char)
  | ':' :: rest =>
      let (negated, body) : Bool × List Char :=
        match rest with
        | '^' :: body => (true, body)
        | body => (false, body)
      match body.span (· != ':') with
      | (name, ':' :: ']' :: after) =>
          (asciiClass? (String.ofList name)).map fun set => (.ascii set negated, after)
      | _ => none
  | _ => none

def readClassItem (verbose : Bool) : List Char → Option (Escape × List Char)
  | [] => none
  | '\\' :: rest => readEscape verbose rest
  | c :: rest => some (.char ⟨c, false⟩, rest)

/-- The part of a class that an escape stands for; a place has no sense there. -/
def Escape.classPart? : Escape → Option ClassPart
  | .char written => some (.char written)
  | .shorthand kind negated => some (.shorthand kind negated)
  | .property name negated => some (.property name negated)
  | .place _ => none

/-- A character, an escape or a range in a class. Both ends of a range are characters, and the
    first is not the greater one. -/
def readClassRange (verbose : Bool) (input : List Char) : Option (ClassPart × List Char) := do
  let (item, after) ← readClassItem verbose input
  let whole := item.classPart?.map fun part => (part, after)
  match skipped verbose after with
  | '-' :: rest =>
      let next := nextInClass? verbose rest
      if next = some ']' ∨ next = some '-' then whole
      else
        match item, ← readClassItem verbose (skipped verbose rest) with
        | .char first, (.char last, after) =>
            if first.char ≤ last.char then some (.range first last, after) else none
        | _, _ => none
  | _ => whole

/-- The operation that is still to be done in a class, with its left side. -/
abbrev Pending := Option (ClassOperation × ClassPart)

/-- The class made of an operation that is still to be done and of the parts after it, which are
    given from the last one on. -/
def completed (pending : Pending) (parts : List ClassPart) : ClassPart :=
  match pending with
  | none => .ofParts parts.reverse
  | some (kind, left) => .operation kind left (.ofParts parts.reverse)

/-- The mark that excludes the characters of a class, after the opening bracket. -/
def readNegation (verbose : Bool) (input : List Char) : Bool × List Char :=
  match skipped verbose input with
  | '^' :: rest => (true, rest)
  | rest => (false, rest)

/-- The content of a class up to its closing bracket. While the class is being opened, hyphens
    stand for themselves, and so does a closing bracket that comes first. The fuel bounds the
    number of steps, each of which reads a character. -/
def readClass (verbose : Bool) :
    (fuel : Nat) → (opening : Bool) → Pending → (parts : List ClassPart) → List Char →
    Option (ClassPart × List Char)
  | 0, _, _, _, _ => none
  | fuel + 1, opening, pending, parts, input =>
      let operate (kind : ClassOperation) (rest : List Char) :=
        readClass verbose fuel false (some (kind, completed pending parts)) [] rest
      let itself (c : Char) : ClassPart := .char ⟨c, false⟩
      match skipped verbose input, opening with
      | [], _ => none
      | '-' :: rest, true => readClass verbose fuel true pending (itself '-' :: parts) rest
      | ']' :: rest, _ =>
          if opening && parts.isEmpty then readClass verbose fuel false pending [itself ']'] rest
          else some (completed pending parts, rest)
      | '[' :: rest, _ =>
          match readAsciiClass rest with
          | some (part, after) => readClass verbose fuel false pending (part :: parts) after
          | none =>
              let (negated, body) := readNegation verbose rest
              match readClass verbose fuel true none [] body with
              | some (content, after) =>
                  readClass verbose fuel false pending (.bracket negated content :: parts) after
              | none => none
      | '&' :: '&' :: rest, _ => operate .intersection rest
      | '-' :: '-' :: rest, _ => operate .difference rest
      | '~' :: '~' :: rest, _ => operate .symmetricDifference rest
      | input, _ =>
          match readClassRange verbose input with
          | some (part, after) => readClass verbose fuel false pending (part :: parts) after
          | none => none

def flagOf? : Char → Option Flag
  | 'i' => some .ignoreCase
  | 'm' => some .lines
  | 's' => some .dotAll
  | 'U' => some .swapGreed
  | 'u' => some .unicode
  | 'R' => some .carriageReturn
  | 'x' => some .verbose
  | _ => none

/-- The flags of a group up to the character that ends them. The hyphen, which turns off the
    flags after it, may stand only once and not at the end, and no flag may be named twice. -/
def readFlags : (turnedOff hyphenLast : Bool) → FlagChanges → List Char →
    Option (FlagChanges × Char × List Char)
  | _, _, _, [] => none
  | turnedOff, hyphenLast, changes, c :: rest =>
      if c = ':' ∨ c = ')' then if hyphenLast then none else some (changes, c, rest)
      else if c = '-' then if turnedOff then none else readFlags true true changes rest
      else do
        let flag ← flagOf? c
        if changes.any (·.1 == flag) then none
        else readFlags turnedOff false (changes ++ [(flag, !turnedOff)]) rest

/-- What the opening parenthesis of a group turns out to begin. -/
inductive GroupOpening where
  | flags (changes : FlagChanges)
  | body (remembered : Bool) (changes : FlagChanges)
  deriving DecidableEq, Repr

def isGroupName : List Char → Bool
  | [] => false
  | c :: rest =>
      (c == '_' || Unicode.alphabetic.contains c) &&
        rest.all fun d =>
          ['_', '.', '[', ']'].contains d ||
            (Unicode.alphabetic.union (Unicode.categories ["Nd", "Nl", "No"])).contains d

/-- What follows the opening parenthesis of a group, with the names of all groups so far. Groups
    that look ahead or behind are refused. -/
def readOpening (names : List (List Char)) (input : List Char) :
    Option (GroupOpening × List (List Char) × List Char) :=
  let named (rest : List Char) : Option (GroupOpening × List (List Char) × List Char) :=
    match rest.span (· != '>') with
    | (name, '>' :: after) =>
        if isGroupName name && !names.contains name then
          some (.body true [], name :: names, after)
        else none
    | _ => none
  match input with
  | '?' :: 'P' :: '<' :: rest => named rest
  | '?' :: '<' :: rest => named rest
  | '?' :: rest => do
      let (changes, stop, after) ← readFlags false false [] rest
      if stop = ':' then some (.body false changes, names, after)
      else if changes.isEmpty then none
      else some (.flags changes, names, after)
  | _ => some (.body true [], names, input)

/-- Decimal digits in the braces of a repetition, among which blanks and comments may stand in
    verbose patterns, and the text after them. -/
def readDigits (verbose : Bool) :
    (inComment : Bool) → (digits : List Char) → List Char → List Char × List Char
  | _, digits, [] => (digits.reverse, [])
  | true, digits, c :: rest => readDigits verbose (c != '\n') digits rest
  | false, digits, c :: rest =>
      if verbose && isBlank c then readDigits verbose false digits rest
      else if verbose && c == '#' then readDigits verbose true digits rest
      else if c.isDigit then readDigits verbose false (c :: digits) rest
      else (digits.reverse, c :: rest)

/-- A count of repetitions, which is below 2 ^ 32, with blanks around it. -/
def readCount (verbose : Bool) (input : List Char) : Option (Nat × List Char) :=
  let (digits, after) := readDigits verbose false [] (input.dropWhile isBlank)
  let count := digits.foldl (fun number c => number * 10 + (c.toNat - 48)) 0
  if digits.isEmpty || UInt32.size ≤ count then none else some (count, after.dropWhile isBlank)

/-- The counts of a repetition after the opening brace: the least number, and the greatest if
    there is one. -/
def readCounts (verbose : Bool) (input : List Char) :
    Option ((Nat × Option Nat) × List Char) := do
  let (least, after) ← readCount verbose (skipped verbose input)
  match after with
  | '\x7d' :: rest => some ((least, some least), rest)
  | ',' :: rest =>
      match skipped verbose rest with
      | '\x7d' :: rest => some ((least, none), rest)
      | rest =>
          match ← readCount verbose rest with
          | (greatest, '\x7d' :: rest) =>
              if least ≤ greatest then some ((least, some greatest), rest) else none
          | _ => none
  | _ => none

/-- The text without the mark that makes a repetition take as little as possible, which does
    not change what is found. -/
def withoutLazyMark : List Char → List Char
  | '?' :: rest => rest
  | input => input

/-- A repetition from its sign on: its counts and the text after it. -/
def readRepetition (verbose : Bool) (sign : Char) (rest : List Char) :
    Option ((Nat × Option Nat) × List Char) :=
  match sign with
  | '?' => some ((0, some 1), withoutLazyMark rest)
  | '*' => some ((0, none), withoutLazyMark rest)
  | '+' => some ((1, none), withoutLazyMark rest)
  | _ => (readCounts verbose rest).map fun (counts, after) =>
      (counts, withoutLazyMark (skipped verbose after))

def Escape.part : Escape → PatternPart
  | .char written => .char written
  | .shorthand kind negated => .shorthand kind negated
  | .property name negated => .property name negated
  | .place position => .place position

/-- A class, an escape, an anchor, the dot or a character. -/
def readAtom (verbose : Bool) (c : Char) (rest : List Char) : Option (PatternPart × List Char) :=
  match c with
  | '.' => some (.dot, rest)
  | '^' => some (.place .lineStart, rest)
  | '$' => some (.place .lineEnd, rest)
  | '\\' => (readEscape verbose rest).map fun (escape, after) => (escape.part, after)
  | '[' =>
      let (negated, body) := readNegation verbose rest
      (readClass verbose (body.length + 1) true none [] body).map fun (content, after) =>
        (.bracket negated content, after)
  | _ => some (.char ⟨c, false⟩, rest)

/-- Alternatives up to a closing parenthesis or the end, with the names of all groups so far. The
    parts read so far, which are given from the last one on, are the earlier alternatives and
    the parts of the current one. The fuel bounds the number of steps, each of which reads a
    character. -/
def readBranches :
    (fuel : Nat) → (verbose : Bool) → (names : List (List Char)) →
    (branches parts : List PatternPart) → List Char →
    Option (PatternPart × List (List Char) × List Char)
  | 0, _, _, _, _, _ => none
  | fuel + 1, verbose, names, branches, parts, input =>
      let current := ofSequence parts.reverse
      let whole := ofAlternatives (current :: branches).reverse
      match skipped verbose input with
      | [] => some (whole, names, [])
      | ')' :: rest => some (whole, names, ')' :: rest)
      | '|' :: rest => readBranches fuel verbose names (current :: branches) [] rest
      | '(' :: rest =>
          match readOpening names (skipped verbose rest) with
          | none => none
          | some (.flags changes, names, after) =>
              readBranches fuel (changes.applied .verbose verbose) names branches
                (.flags changes :: parts) after
          | some (.body remembered changes, names, after) =>
              match readBranches fuel (changes.applied .verbose verbose) names [] [] after with
              | some (body, names, ')' :: after) =>
                  readBranches fuel verbose names branches
                    (.group remembered changes body :: parts) after
              | _ => none
      | c :: rest =>
          if ['?', '*', '+', '\x7b'].contains c then
            match parts, readRepetition verbose c rest with
            | part :: parts, some ((least, greatest), after) =>
                if part.isRepeatable then
                  readBranches fuel verbose names branches
                    (.repetition least greatest part :: parts) after
                else none
            | _, _ => none
          else
            match readAtom verbose c rest with
            | some (part, after) => readBranches fuel verbose names branches (part :: parts) after
            | none => none

/-- The greatest depth to which the parts of a pattern may be nested. -/
def depthLimit : Nat := 250

/-- The part that a whole text writes, unless it is nested too deeply. -/
def read? (source : String) : Option PatternPart :=
  let input := source.toList
  match readBranches (input.length + 1) false [] [] [] input with
  | some (part, _, []) => if part.depth ≤ depthLimit then some part else none
  | _ => none

end PatternPart

end DocStore
