import DocStore.Pattern.Part
import DocStore.Unicode.CaseFolding

/-! # The meaning of written patterns

The expressions that written patterns stand for, which depend on the flags that are on at each
place. A pattern has no meaning if it names a property that does not exist, or if it could
describe a part of a character where the flags limit it to ASCII.
-/

namespace DocStore

/-- The flags that matter for the meaning of a part. -/
structure Flags where
  ignoreCase : Bool
  lines : Bool
  dotAll : Bool
  carriageReturn : Bool
  unicode : Bool
  deriving DecidableEq, Repr

namespace Flags

/-- The flags of a pattern that sets none. -/
def initial : Flags :=
  { ignoreCase := false, lines := false, dotAll := false, carriageReturn := false, unicode := true }

def changed (flags : Flags) (changes : FlagChanges) : Flags where
  ignoreCase := changes.applied .ignoreCase flags.ignoreCase
  lines := changes.applied .lines flags.lines
  dotAll := changes.applied .dotAll flags.dotAll
  carriageReturn := changes.applied .carriageReturn flags.carriageReturn
  unicode := changes.applied .unicode flags.unicode

/-- A set with the characters that differ only in case, if case is ignored. -/
def folded (flags : Flags) (set : CharSet) : CharSet :=
  if flags.ignoreCase then
    if flags.unicode then Unicode.ignoringCase set else set.ignoringAsciiCase
  else set

/-- A set, unless it holds a character beyond ASCII while the flags exclude these. -/
def admitted? (flags : Flags) (set : CharSet) : Option CharSet :=
  if flags.unicode || set.isAscii then some set else none

/-- A set or, if it is negated, the characters outside of it. -/
def negatedIf? (flags : Flags) (negated : Bool) (set : CharSet) : Option CharSet :=
  flags.admitted? (if negated then set.complement else set)

end Flags

/-- The characters of a shorthand, in all scripts or in ASCII only. -/
def Shorthand.set (unicode : Bool) : Shorthand → CharSet
  | .digit => if unicode then Unicode.decimalDigits else .between '0' '9'
  | .blank => if unicode then Unicode.whiteSpace else ⟨[⟨9, 13⟩, ⟨0x20, 0x20⟩]⟩
  | .word => if unicode then Unicode.wordCharacters else asciiWordCharacters

/-- The set of a property, which is none of ASCII only. -/
def PropertyName.admittedSet? (flags : Flags) (negated : Bool) (name : PropertyName) :
    Option CharSet :=
  if flags.unicode then do flags.negatedIf? negated (flags.folded (← name.set?)) else none

def ClassOperation.apply : ClassOperation → CharSet → CharSet → CharSet
  | .intersection => .intersection
  | .difference => .difference
  | .symmetricDifference => .symmetricDifference

namespace ClassPart

mutual

def set? (flags : Flags) : ClassPart → Option CharSet
  | .empty => some .none
  | .char written => flags.admitted? (.just written.char)
  | .range first last => flags.admitted? (.between first.char last.char)
  | .ascii set negated => flags.negatedIf? negated (flags.folded set)
  | .shorthand kind negated => flags.negatedIf? negated (kind.set flags.unicode)
  | .property name negated => name.admittedSet? flags negated
  | .bracket negated content => do
      flags.negatedIf? negated (flags.folded (← content.set? flags))
  | .union parts => unionSet? flags parts
  | .operation kind left right => do
      return kind.apply (flags.folded (← left.set? flags)) (flags.folded (← right.set? flags))

def unionSet? (flags : Flags) : List ClassPart → Option CharSet
  | [] => some .none
  | part :: rest => do return (← part.set? flags).union (← unionSet? flags rest)

end

end ClassPart

def WrittenPlace.anchor (flags : Flags) : WrittenPlace → Anchor
  | .lineStart => if flags.lines then .lineStart flags.carriageReturn else .textStart
  | .lineEnd => if flags.lines then .lineEnd flags.carriageReturn else .textEnd
  | .textStart => .textStart
  | .textEnd => .textEnd
  | .word edge => .word edge (!flags.unicode)

/-- The characters that the dot stands for: all, or all but those that end lines. -/
def Flags.dot (flags : Flags) : CharSet :=
  if flags.dotAll then .any
  else if flags.carriageReturn then CharSet.complement ⟨[⟨10, 10⟩, ⟨13, 13⟩]⟩
  else CharSet.complement ⟨[⟨10, 10⟩]⟩

/-- The characters that a written character stands for. In ASCII, two digits would write a byte
    and not a character, and only the letters of ASCII have another case. -/
def WrittenChar.set? (flags : Flags) (written : WrittenChar) : Option CharSet :=
  if !flags.unicode && written.byte && 128 ≤ written.char.toNat then none
  else some (flags.folded (.just written.char))

namespace PatternTree

/-- A repetition without needless parts. -/
def times (least : Nat) (greatest : Option Nat) (body : PatternTree) : PatternTree :=
  if greatest = some 0 then .empty
  else if least = 1 ∧ greatest = some 1 then body
  else .repeated least greatest body

end PatternTree

namespace PatternPart

mutual

/-- The expression of a part under flags, and the flags for what comes after it. -/
def meaning? (flags : Flags) : PatternPart → Option (PatternTree × Flags)
  | .empty => some (.empty, flags)
  | .char written => do return (.chars (← written.set? flags), flags)
  | .dot => if flags.unicode then some (.chars flags.dot, flags) else none
  | .place position => some (.anchor (position.anchor flags), flags)
  | .shorthand kind negated => do
      return (.chars (← flags.negatedIf? negated (kind.set flags.unicode)), flags)
  | .property name negated => do return (.chars (← name.admittedSet? flags negated), flags)
  | .bracket negated content => do
      let set ← flags.negatedIf? negated (flags.folded (← content.set? flags))
      return (.chars set, flags)
  | .flags changes => some (.empty, flags.changed changes)
  | .group remembered changes body => do
      let (tree, _) ← body.meaning? (flags.changed changes)
      return (if remembered then .group tree else tree, flags)
  | .repetition least greatest body => do
      let (tree, flags) ← body.meaning? flags
      return (tree.times least greatest, flags)
  | .sequence parts => sequenceMeaning? flags parts
  | .alternatives branches => alternativesMeaning? flags branches

def sequenceMeaning? (flags : Flags) : List PatternPart → Option (PatternTree × Flags)
  | [] => some (.empty, flags)
  | part :: rest => do
      let (first, flags) ← part.meaning? flags
      let (second, flags) ← sequenceMeaning? flags rest
      return (first.followedBy second, flags)

/-- The expression of alternatives. Flags that one of them changes are changed for those after
    it too. -/
def alternativesMeaning? (flags : Flags) : List PatternPart → Option (PatternTree × Flags)
  | [] => some (.empty, flags)
  | [branch] => branch.meaning? flags
  | branch :: rest => do
      let (left, flags) ← branch.meaning? flags
      let (right, flags) ← alternativesMeaning? flags rest
      return (.either left right, flags)

end

end PatternPart

end DocStore
