import DocStore.Query.Builder

/-! # Updates

An update gives each field path one operation. The wire form groups the fields by operator; the
removed fields are a plain list of names.
-/

namespace DocStore

/-- One value, or several that are applied each by itself. -/
inductive Addition where
  | one (value : Operand)
  | each (values : List Operand)
  deriving Repr

/-- The order that a list is brought into after values were appended. -/
inductive PushOrder where
  /-- Order the elements themselves. -/
  | elements (direction : SortDirection)
  /-- Order embedded documents by fields. -/
  | fields (orders : List (String × SortDirection))
  deriving DecidableEq, Repr

/-- The wire form of an order. -/
def PushOrder.wire : PushOrder → Json
  | .elements direction => direction.wire
  | .fields orders => Query.sortWire orders

/-- What appending to a list does besides appending. -/
structure PushModifiers where
  /-- Where to insert, in place of the end. -/
  position : Option Int64
  /-- How many elements to keep. -/
  keep : Option Int64
  order : Option PushOrder
  deriving DecidableEq, Repr

namespace PushModifiers

/-- Plain appending. -/
def plain : PushModifiers := ⟨none, none, none⟩

/-- The members that follow the list of values on the wire. -/
def members (modifiers : PushModifiers) : Members :=
  (modifiers.position.map fun n => ("$position", .number (.ofInt64 n))).toList ++
  (modifiers.keep.map fun n => ("$slice", .number (.ofInt64 n))).toList ++
  (modifiers.order.map fun order => ("$sort", order.wire)).toList

end PushModifiers

/-- An operation on one field. -/
inductive FieldOperation where
  | set (value : Operand)
  /-- Assign only when the update creates the document. -/
  | setOnInsert (value : Operand)
  | increment (delta : Operand)
  | decrement (delta : Operand)
  | min (value : Operand)
  | max (value : Operand)
  | multiply (factor : Operand)
  | divide (divisor : Operand)
  | rename (path : String)
  | unset
  | addToSet (items : Addition)
  | popFirst
  | popLast
  | push (items : Addition) (modifiers : PushModifiers)
  deriving Repr

namespace FieldOperation

/-- The wire name of an operation. Subtraction is sent as addition, division as
    multiplication. -/
def token : FieldOperation → String
  | .set _ => "$set"
  | .setOnInsert _ => "$setOnInsert"
  | .increment _ | .decrement _ => "$inc"
  | .min _ => "$min"
  | .max _ => "$max"
  | .multiply _ | .divide _ => "$mul"
  | .rename _ => "$rename"
  | .unset => "$unset"
  | .addToSet _ => "$addToSet"
  | .popFirst | .popLast => "$pop"
  | .push _ _ => "$push"

/-- The number of an operand that must be one. -/
def requireNumber (operand : Operand) (field operator : String) : Except Error JsonNumber :=
  match operand with
  | .number value => .ok value
  | other => .error (.invalidOperand field operator .number (.operand other.kind))

/-- The number of the opposite sign. An integer stays one if it and its opposite are both signed
    words; any other number becomes the negated double. -/
def negate? (n : JsonNumber) : Option JsonNumber :=
  match n.toSigned?.bind fun value =>
      if value = -9223372036854775808 then none else JsonNumber.ofInt? (-value) with
  | some opposite => some opposite
  | none => n.toDouble?.map fun value => .double value.neg

/-- One divided by a number, as a double. -/
def reciprocal? (divisor : Binary64) : Option Binary64 :=
  (Binary64.ofNat? 1).bind fun one => one.div? divisor

/-- The wire forms of literal values. -/
def literalValues : (values : List Operand) → (field operator : String) → Except Error (List Json)
  | [], _, _ => .ok []
  | value :: rest, field, operator => do
      let first ← value.requireLiteral field operator
      let others ← literalValues rest field operator
      return first :: others

/-- The wire form of an operation on a field, under the operation's own name. -/
def compile (op : FieldOperation) (field : String) : Except Error Json :=
  match op with
  | .set value | .setOnInsert value | .min value | .max value => value.requireLiteral field op.token
  | .increment delta | .multiply delta =>
      (requireNumber delta field op.token).map .number
  | .decrement delta => do
      match negate? (← requireNumber delta field op.token) with
      | some opposite => return .number opposite
      | none => .error (.invalidOperand field op.token .finiteNumber (.operand .number))
  | .divide divisor => do
      let value := (← requireNumber divisor field op.token).toDouble?.getD (.zero false)
      if value.isZero then .error (.divisionByZero field "divide")
      else
        match reciprocal? value with
        | some factor => return .number (.double factor)
        | none => .error (.invalidOperand field op.token .finiteDivisor (.operand .number))
  | .rename path =>
      if path.toList.isEmpty then
        .error (.invalidOperand field op.token .fieldPath .emptyString)
      else .ok (.string path)
  | .unset => .ok (.string field)
  | .addToSet (.one value) => value.requireLiteral field op.token
  | .addToSet (.each values) => do
      return .single "$each" (.array (← literalValues values field op.token))
  | .popFirst => .ok (.number .minusOne)
  | .popLast => .ok (.flag true)
  | .push (.one value) modifiers => do
      let literal ← value.requireLiteral field op.token
      if modifiers = .plain then return literal
      else return .object (("$each", .array [literal]) :: modifiers.members)
  | .push (.each values) modifiers => do
      let list ← literalValues values field op.token
      return .object (("$each", .array list) :: modifiers.members)

end FieldOperation

/-- An update: each field path with its operation, in the order of their first mention. -/
abbrev Update := List (String × FieldOperation)

namespace Update

/-- The operation on a field. -/
def find? (update : Update) (field : String) : Option FieldOperation :=
  update.lookup field

/-- Give a field an operation. A field that has one keeps its position and takes the new
    operation. -/
def assign : Update → String → FieldOperation → Update
  | [], field, op => [(field, op)]
  | (name, present) :: rest, field, op =>
      if name = field then (name, op) :: rest else (name, present) :: assign rest field op

/-- Put the compiled operation of a field into the group of its operator, which is started if
    there is none. -/
def addToGroup (groups : Members) (field : String) (op : FieldOperation) (compiled : Json) :
    Members :=
  match op, groups.find? op.token with
  | .unset, some (.array names) => groups.insert op.token (.array (names ++ [compiled]))
  | .unset, none => groups.insert op.token (.array [compiled])
  | _, some (.object fields) =>
      groups.insert op.token (.object (Members.insert fields field compiled))
  | _, none => groups.insert op.token (.single field compiled)
  | _, some _ => groups

/-- Compile operations into groups, up to the first that fails. -/
def compileInto (groups : Members) : Update → Except Error Members
  | [] => .ok groups
  | (field, op) :: rest => do
      let compiled ← op.compile field
      compileInto (addToGroup groups field op compiled) rest

/-- The wire form of an update, which has no members if the update has no operations. -/
def compile (update : Update) : Except Error Json :=
  (compileInto [] update).map .object

end Update

end DocStore
