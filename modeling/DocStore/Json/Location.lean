import DocStore.Json.Value

/-! # Locations inside a value

Where a validator stands: a name for the whole value and the steps taken into it.
-/

namespace DocStore

/-- One step from a value to a part of it. -/
inductive LocationStep where
  | member (name : String)
  | item (index : Nat)
  deriving DecidableEq, Repr

/-- A step as it is written at the end of a location. -/
def LocationStep.text : LocationStep → String
  | .member name => "." ++ name
  | .item index => "[" ++ toString index ++ "]"

/-- The part of a value that a step leads to. -/
def Json.step? : Json → LocationStep → Option Json
  | .object members, .member name => members.lookup name
  | .array items, .item index => items[index]?
  | _, _ => none

/-- The part of a value that a list of steps leads to. -/
def Json.follow? : Json → List LocationStep → Option Json
  | value, [] => some value
  | value, step :: rest => (value.step? step).bind fun part => part.follow? rest

/-- A place in a value: the name of the whole, and the steps from it. -/
structure Location where
  root : String
  steps : List LocationStep
  deriving DecidableEq, Repr

namespace Location

def whole (root : String) : Location := ⟨root, []⟩

def member (location : Location) (name : String) : Location :=
  { location with steps := location.steps ++ [.member name] }

def item (location : Location) (index : Nat) : Location :=
  { location with steps := location.steps ++ [.item index] }

/-- The written form: the root's name followed by the steps. -/
def text (location : Location) : String :=
  location.steps.foldl (fun acc step => acc ++ step.text) location.root

end Location

end DocStore
