import DocStore.Geometry.Validation
import DocStore.Query.Expression

/-! # Compiling query expressions

The wire form of a query expression. A node with literal operands becomes
`{field: {operator: value}}`; a node that compares fields with each other becomes
`{"$expr": ...}`. The subqueries of an element match are merged into one body.
-/

namespace DocStore

/-- Where an expression stands: only inside an element match may a node lack a field. -/
inductive Scope where
  | document
  | element
  deriving DecidableEq, Repr

namespace Query

/-- What error texts call the field of a node that tests an array element. -/
def elementName : String := "<element>"

/-- The field's name for error texts. -/
def fieldName (field : Option String) : String :=
  field.getD elementName

/-- Check that a node outside of element matches has a field. -/
def demandField (field : Option String) (scope : Scope) (operator : String) :
    Except Error Unit :=
  match field, scope with
  | none, .document => .error (.missingField operator)
  | _, _ => .ok ()

/-- The condition under its field, or by itself when it is on the element. -/
def underField (field : Option String) (condition : Json) : Json :=
  match field with
  | some name => .single name condition
  | none => condition

/-- The form that compares fields. It names the node's own field, so there must be one. -/
def acrossFields (field : Option String) (operator : String) (build : Json → Json) :
    Except Error Json :=
  match field with
  | some name => .ok (.single "$expr" (build (fieldPath name)))
  | none => .error (.missingField operator)

/-- Check that an operand is a number or a field. -/
def demandNumeric (operand : Operand) (field : Option String) (operator : String) :
    Except Error Unit :=
  if operand.isNumber || operand.isField then .ok ()
  else .error (.invalidOperand (fieldName field) operator .number (.operand operand.kind))

/-- The wire form of an operand that must be a literal array. -/
def listLiteral (operand : Operand) (field : Option String) (operator : String) :
    Except Error Json :=
  match operand with
  | .array _ => operand.requireLiteral (fieldName field) operator
  | other => .error (.arrayExpected (fieldName field) operator other.kind)

def isZero (operand : Operand) : Bool :=
  operand.toDouble?.any Binary64.isZero

/-- The member that collects conditions which cannot be merged. -/
def conjunctionKey : String := "$and"

/-- Append a condition to the list of a body's conjunction, starting the list if there is
    none. -/
def appendConjunct (body : Members) (condition : Json) : Members :=
  match body.find? conjunctionKey with
  | none => body.insert conjunctionKey (.array [condition])
  | some (.array conjuncts) => body.insert conjunctionKey (.array (conjuncts ++ [condition]))
  | some _ => body

/-- Merge one member into an element match's body. Operators on the same field are combined
    when they are different ones; any other collision goes to the body's conjunction. -/
def mergeMember (body : Members) (key : String) (value : Json) : Members :=
  match body.find? key with
  | none => body.insert key value
  | some present =>
      match present, value with
      | .object existing, .object incoming =>
          if !startsWithDollar key &&
              (Members.keys incoming).all fun k => !Members.contains existing k then
            body.insert key (.object (Members.extend existing incoming))
          else appendConjunct body (.single key value)
      | _, _ => appendConjunct body (.single key value)

/-- Merge a compiled subquery into an element match's body. -/
def merge (body : Members) (fragment : Json) : Members :=
  match fragment with
  | .object members => members.foldl (fun acc member => mergeMember acc member.1 member.2) body
  | _ => body

/-- Check a literal geometry and give its wire form. -/
def literalGeometry (op : SpatialRelation) (geometry : Operand) (field : Option String) :
    Except Error Json :=
  match geometry with
  | .map _ => do
      let shape ← geometry.requireLiteral (fieldName field) op.token
      let type ← Geometry.validate shape
      if op.accepts type then return shape
      else .error (.unsupportedGeometry op.token type)
  | other =>
      .error (.invalidOperand (fieldName field) op.token .geometryObject (.operand other.kind))

/-- The distance bounds that are given, with their wire names. -/
def distanceBounds (minDistance maxDistance : Option Operand) : List (String × Operand) :=
  (minDistance.map fun bound => ("$minDistance", bound)).toList ++
    (maxDistance.map fun bound => ("$maxDistance", bound)).toList

/-- Check the distance bounds of a geometric relation: only proximity has them, and they are
    numeric. -/
def demandBounds (op : SpatialRelation) (field : Option String) :
    List (String × Operand) → Except Error Unit
  | [] => .ok ()
  | (_, bound) :: rest =>
      if op ≠ .near then
        .error (.invalidOperand (fieldName field) op.token .noDistanceBound
          (.operand bound.kind))
      else do
        demandNumeric bound field op.token
        demandBounds op field rest

/-- The wire form of a geometric relation. -/
def spatialCondition (op : SpatialRelation) (field : Option String) (geometry : Operand)
    (minDistance maxDistance : Option Operand) (scope : Scope) : Except Error Json := do
  demandField field scope op.token
  let bounds := distanceBounds minDistance maxDistance
  demandBounds op field bounds
  if geometry.isField || bounds.any fun bound => bound.2.isField then
    if !geometry.isField then
      let _ ← literalGeometry op geometry field
    let arguments := geometry.exprForm :: bounds.map fun bound => bound.2.exprForm
    acrossFields field op.token fun own => .single op.token (.array (own :: arguments))
  else
    let shape ← literalGeometry op geometry field
    let members := ("$geometry", shape) :: bounds.map fun bound => (bound.1, bound.2.exprForm)
    return underField field (.single op.token (.object members))

mutual

def compileIn (scope : Scope) : Expression → Except Error Json
  | .compare op field value => do
      demandField field scope op.token
      if value.isField then
        acrossFields field op.token fun own => .single op.token (.array [own, value.exprForm])
      else
        let literal ← value.requireLiteral (fieldName field) op.token
        return underField field (.single op.token literal)
  | .membership op field values => do
      demandField field scope op.token
      if values.isField then
        acrossFields field op.token fun own =>
          let test := Json.single "$in" (.array [own, values.exprForm])
          match op with
          | .isIn => test
          | .notIn => .single "$not" (.array [test])
      else
        let list ← listLiteral values field op.token
        return underField field (.single op.token list)
  | .presence field present => do
      demandField field scope "$exists"
      return underField field (.single "$exists" (.bool present))
  | .typeIs field name => do
      demandField field scope "$type"
      if name.toList.isEmpty then
        .error (.invalidOperand (fieldName field) "$type" .typeName .emptyString)
      else return underField field (.single "$type" (.string name))
  | .modulo field divisor remainder => do
      demandField field scope "$mod"
      demandNumeric divisor field "$mod"
      demandNumeric remainder field "$mod"
      if isZero divisor then
        .error (.divisionByZero (fieldName field) "$mod")
      else if divisor.isField || remainder.isField then
        acrossFields field "$mod" fun own =>
          .single "$eq"
            (.array [.single "$mod" (.array [own, divisor.exprForm]), remainder.exprForm])
      else
        return underField field (.single "$mod" (.array [divisor.exprForm, remainder.exprForm]))
  | .pattern field pattern options => do
      demandField field scope "$regex"
      let optionMember := (options.map fun text => ("$options", Json.string text)).toList
      return underField field (.object (("$regex", .string pattern) :: optionMember))
  | .geo op field geometry minDistance maxDistance =>
      spatialCondition op field geometry minDistance maxDistance scope
  | .containsAll field values => do
      demandField field scope "$all"
      if values.isField then
        acrossFields field "$all" fun own => .single "$setIsSubset" (.array [values.exprForm, own])
      else
        let list ← listLiteral values field "$all"
        return underField field (.single "$all" list)
  | .elementMatches field subqueries => do
      demandField field scope "$elemMatch"
      let fragments ← compileEach .element subqueries
      return underField field (.single "$elemMatch" (.object (fragments.foldl merge [])))
  | .sizeIs field size => do
      demandField field scope "$size"
      if size.isField then
        acrossFields field "$size" fun own =>
          .single "$eq" (.array [.single "$size" own, size.exprForm])
      else
        match size with
        | .number n =>
            if n.toNat?.isSome then return underField field (.single "$size" (.number n))
            else
              .error (.invalidOperand (fieldName field) "$size" .nonNegativeInteger
                (.operand .number))
        | other =>
            .error (.invalidOperand (fieldName field) "$size" .nonNegativeInteger
              (.operand other.kind))
  | .logical op children => do
      let compiled ← compileEach scope children
      return .single op.token (.array compiled)
termination_by structural expression => expression

/-- The wire forms of expressions, up to the first that fails. -/
def compileEach (scope : Scope) : List Expression → Except Error (List Json)
  | [] => .ok []
  | expression :: rest => do
      let first ← compileIn scope expression
      let others ← compileEach scope rest
      return first :: others
termination_by structural expressions => expressions

end

/-- The wire form of a list of expressions that all must hold. -/
def compile (expressions : List Expression) : Except Error Json :=
  match expressions with
  | [] => .ok (.object [])
  | [only] => compileIn .document only
  | many => compileIn .document (.logical .and many)

end Query

end DocStore
