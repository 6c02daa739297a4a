import DocStore.Error

/-! # Operands

The values that query and update operators are given. An operand is a literal, or refers to
another field of the document, which makes the query around it compare fields with each other.
-/

namespace DocStore

/-- An operand of a query or update operator. The entries of a map are kept as given, repeated
    keys included. -/
inductive Operand where
  | null
  | bool (value : Bool)
  | number (value : JsonNumber)
  | string (value : String)
  | array (items : List Operand)
  | map (entries : List (String × Operand))
  /-- The value of another field. -/
  | field (path : String)
  deriving Repr, Inhabited

/-- Whether a text begins with the mark of operators and field paths. -/
def startsWithDollar (text : String) : Bool :=
  text.toList.head? == some '$'

/-- The path of a field as it is written inside an `$expr`. -/
def fieldPath (path : String) : Json :=
  .string ("$" ++ path)

namespace Operand

def kind : Operand → OperandKind
  | .null => .null
  | .bool _ => .bool
  | .number _ => .number
  | .string _ => .string
  | .array _ => .array
  | .map _ => .map
  | .field _ => .field

def isField : Operand → Bool
  | .field _ => true
  | _ => false

def isNumber : Operand → Bool
  | .number _ => true
  | _ => false

def toDouble? : Operand → Option Binary64
  | .number value => value.toDouble?
  | _ => none

/-- A double; one that is infinite or no number at all becomes null. -/
def ofDouble? : Option Binary64 → Operand
  | some value => .number (.double value)
  | none => .null

mutual

def ofJson : Json → Operand
  | .null => .null
  | .bool value => .bool value
  | .number value => .number value
  | .string value => .string value
  | .array items => .array (ofItems items)
  | .object members => .map (ofMembers members)
termination_by structural value => value

def ofItems : List Json → List Operand
  | [] => []
  | item :: rest => ofJson item :: ofItems rest
termination_by structural items => items

def ofMembers : List (String × Json) → List (String × Operand)
  | [] => []
  | (key, value) :: rest => (key, ofJson value) :: ofMembers rest
termination_by structural members => members

end

mutual

/-- The JSON value of a literal; an operand that refers to a field anywhere inside has none. -/
def literal? : Operand → Option Json
  | .null => some .null
  | .bool value => some (.bool value)
  | .number value => some (.number value)
  | .string value => some (.string value)
  | .array items => (literalItems? items).map .array
  | .map entries => (literalEntries? entries).map fun pairs => .object (Members.ofPairs pairs)
  | .field _ => none
termination_by structural operand => operand

def literalItems? : List Operand → Option (List Json)
  | [] => some []
  | item :: rest =>
      match literal? item, literalItems? rest with
      | some value, some values => some (value :: values)
      | _, _ => none
termination_by structural items => items

def literalEntries? : List (String × Operand) → Option (List (String × Json))
  | [] => some []
  | (key, entry) :: rest =>
      match literal? entry, literalEntries? rest with
      | some value, some values => some ((key, value) :: values)
      | _, _ => none
termination_by structural entries => entries

end

/-- The wire form in `{field: {operator: value}}`, which only literals have. -/
def requireLiteral (operand : Operand) (field operator : String) : Except Error Json :=
  match operand.literal? with
  | some value => .ok value
  | none => .error (.invalidOperand field operator .literalValue (.operand .field))

mutual

/-- The wire form inside an `$expr`: fields are written as paths, and strings that would read
    as paths are marked as literals. -/
def exprForm : Operand → Json
  | .null => .null
  | .bool value => .bool value
  | .number value => .number value
  | .string value =>
      if startsWithDollar value then .single "$literal" (.string value) else .string value
  | .array items => .array (exprItems items)
  | .map entries => .object (Members.ofPairs (exprEntries entries))
  | .field path => fieldPath path
termination_by structural operand => operand

def exprItems : List Operand → List Json
  | [] => []
  | item :: rest => exprForm item :: exprItems rest
termination_by structural items => items

def exprEntries : List (String × Operand) → List (String × Json)
  | [] => []
  | (key, entry) :: rest => (key, exprForm entry) :: exprEntries rest
termination_by structural entries => entries

end

end Operand

end DocStore
