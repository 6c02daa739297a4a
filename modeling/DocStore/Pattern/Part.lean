import DocStore.Pattern.Search
import DocStore.Unicode.Naming

/-! # Written patterns

The parts that a pattern is written with, before flags give them their meaning, and how deeply
the parts of a pattern are nested.
-/

namespace DocStore

/-- A character of a pattern; `byte` says that it was written as exactly two hexadecimal
    digits. -/
structure WrittenChar where
  char : Char
  byte : Bool
  deriving DecidableEq, Repr

/-- The classes that are written as an escaped letter. -/
inductive Shorthand where
  | digit
  | blank
  | word
  deriving DecidableEq, Repr

/-- The places that a pattern can ask for. -/
inductive WrittenPlace where
  | lineStart
  | lineEnd
  | textStart
  | textEnd
  | word (edge : WordEdge)
  deriving DecidableEq, Repr

/-- The name of a property, alone or with a value. -/
inductive PropertyName where
  | single (name : List Char)
  | valued (name value : List Char)
  deriving DecidableEq, Repr

def PropertyName.set? : PropertyName → Option CharSet
  | .single name => Unicode.namedSet? name
  | .valued name value => Unicode.valueSet? name value

inductive ClassOperation where
  | intersection
  | difference
  | symmetricDifference
  deriving DecidableEq, Repr

/-- A part of a class in brackets. -/
inductive ClassPart where
  | empty
  | char (written : WrittenChar)
  | range (first last : WrittenChar)
  /-- A class of ASCII characters by name. -/
  | ascii (set : CharSet) (negated : Bool)
  | shorthand (kind : Shorthand) (negated : Bool)
  | property (name : PropertyName) (negated : Bool)
  | bracket (negated : Bool) (content : ClassPart)
  | union (parts : List ClassPart)
  | operation (kind : ClassOperation) (left right : ClassPart)
  deriving Repr

namespace ClassPart

/-- The union of parts, which is the part itself if there is only one. -/
def ofParts : List ClassPart → ClassPart
  | [] => .empty
  | [part] => part
  | parts => .union parts

mutual

def depth : ClassPart → Nat
  | .bracket _ content => content.depth + 1
  | .union parts => greatestDepth parts + 1
  | .operation _ left right => max left.depth right.depth + 1
  | _ => 0

def greatestDepth : List ClassPart → Nat
  | [] => 0
  | part :: rest => max part.depth (greatestDepth rest)

end

end ClassPart

/-- What can be turned on and off within a pattern. -/
inductive Flag where
  | ignoreCase
  | lines
  | dotAll
  | swapGreed
  | unicode
  | carriageReturn
  | verbose
  deriving DecidableEq, Repr

/-- The flags that are turned on or off at one place. -/
abbrev FlagChanges := List (Flag × Bool)

/-- The value of a flag after changes. -/
def FlagChanges.applied (changes : FlagChanges) (flag : Flag) (before : Bool) : Bool :=
  (changes.lookup flag).getD before

inductive PatternPart where
  | empty
  | char (written : WrittenChar)
  | dot
  | place (position : WrittenPlace)
  | shorthand (kind : Shorthand) (negated : Bool)
  | property (name : PropertyName) (negated : Bool)
  | bracket (negated : Bool) (content : ClassPart)
  /-- Changes the flags for what comes after it in the group. -/
  | flags (changes : FlagChanges)
  /-- A group, remembered or not, with flags of its own. -/
  | group (remembered : Bool) (changes : FlagChanges) (body : PatternPart)
  | repetition (least : Nat) (greatest : Option Nat) (body : PatternPart)
  | sequence (parts : List PatternPart)
  | alternatives (branches : List PatternPart)
  deriving Repr

namespace PatternPart

/-- Parts one after the other, which is the part itself if there is only one. -/
def ofSequence : List PatternPart → PatternPart
  | [] => .empty
  | [part] => part
  | parts => .sequence parts

/-- Alternatives, which are the part itself if there is only one. -/
def ofAlternatives : List PatternPart → PatternPart
  | [] => .empty
  | [branch] => branch
  | branches => .alternatives branches

/-- Whether a repetition can apply to a part. -/
def isRepeatable : PatternPart → Bool
  | .empty | .flags _ => false
  | _ => true

mutual

def depth : PatternPart → Nat
  | .bracket _ content => content.depth + 1
  | .group _ _ body => body.depth + 1
  | .repetition _ _ body => body.depth + 1
  | .sequence parts => greatestDepth parts + 1
  | .alternatives branches => greatestDepth branches + 1
  | _ => 0

def greatestDepth : List PatternPart → Nat
  | [] => 0
  | part :: rest => max part.depth (greatestDepth rest)

end

end PatternPart

end DocStore
