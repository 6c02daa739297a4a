import DocStore.Proofs.Query.WellFormed

/-! # Wire forms of nodes

What each kind of node with a field of its own is compiled to. A node has one of two forms: the
plain one puts an operator and its operand under the field, the other compares fields inside an
`$expr`, and it is the operands alone that decide which. On the wire operators and fields go by
their names.
-/

namespace DocStore

/-- The operands of a node. -/
def Expression.operands : Expression → List Operand
  | .compare _ _ operand | .membership _ _ operand | .containsAll _ operand | .sizeIs _ operand =>
      [operand]
  | .modulo _ divisor remainder => [divisor, remainder]
  | .geo _ _ geometry minDistance maxDistance =>
      geometry :: (minDistance.toList ++ maxDistance.toList)
  | .presence _ _ | .typeIs _ _ | .pattern _ _ _ | .elementMatches _ _ | .logical _ _ => []

namespace Query

/-- The form of a condition on the value of one field. -/
def plainForm (own operator : String) (operand : Json) : Json :=
  .single own (.single operator operand)

/-- The form of a condition that compares fields. -/
def acrossForm (condition : Json) : Json :=
  .single "$expr" condition

/-- The condition that a value is in a list, or that it is not. -/
def membershipCondition (op : Membership) (value list : Json) : Json :=
  let test := Json.single "$in" (.array [value, list])
  match op with
  | .isIn => test
  | .notIn => .single "$not" (.array [test])

/-- The condition that the quotient of two numbers leaves a remainder. -/
def remainderCondition (value divisor remainder : Json) : Json :=
  .single "$eq" (.array [.single "$mod" (.array [value, divisor]), remainder])

/-- The condition that an array has a size. -/
def sizeCondition (value size : Json) : Json :=
  .single "$eq" (.array [.single "$size" value, size])

/-- What has a text as its wire name, among the given. -/
def named? {α : Type} (all : List α) (token : α → String) (text : String) : Option α :=
  all.find? fun member => token member == text

/-- The field that a path names. -/
def readPath : Json → Option String
  | .string text =>
      match text.toList with
      | '$' :: path => some (String.ofList path)
      | _ => none
  | _ => none

@[simp] theorem named?_comparison (op : Comparison) :
    named? Comparison.all Comparison.token op.token = some op := by
  cases op <;> rfl

@[simp] theorem named?_membership (op : Membership) :
    named? Membership.all Membership.token op.token = some op := by
  cases op <;> rfl

@[simp] theorem named?_spatialRelation (op : SpatialRelation) :
    named? SpatialRelation.all SpatialRelation.token op.token = some op := by
  cases op <;> rfl

@[simp] theorem named?_connective (op : Connective) :
    named? Connective.all Connective.token op.token = some op := by
  cases op <;> rfl

@[simp] theorem readPath_fieldPath (path : String) : readPath (fieldPath path) = some path := by
  simp [readPath, fieldPath]

section

variable {scope : Scope} {own operator : String} {operand : Operand} {wire : Json}

theorem isField_of_literal? {literal : Json} (found : operand.literal? = some literal) :
    operand.isField = false := by
  cases operand with
  | field path => cases found
  | _ => rfl

/-- A node with one operand compares fields if that is a field, and else has the plain form, which
    only a literal has. -/
theorem oneOperand_eq_ok_iff {check : Except Error Json} {holds : Prop}
    (build : Json → Json → Json) (plain : check = .ok wire ↔ holds)
    (literal : holds → operand.isField = false) :
    (do
        demandField (some own) scope operator
        if operand.isField = true then
          acrossFields (some own) operator fun this => build this operand.exprForm
        else check) = .ok wire ↔
      (∃ path, operand = .field path ∧
        wire = acrossForm (build (fieldPath own) (fieldPath path))) ∨ holds := by
  have demanded : demandField (some own) scope operator = .ok () := rfl
  rw [demanded, bind_eq_ok_iff, ← plain]
  rw [← plain] at literal
  cases operand with
  | field path =>
      have failed : ¬check = .ok wire := fun found => Bool.noConfusion (literal found)
      simp [Operand.isField, acrossFields, acrossForm, Operand.exprForm, failed, eq_comm]
  | _ => simp [Operand.isField]

theorem requireLiteral_bind_eq_ok_iff {field : String} {make : Json → Json} :
    (do
        let literal ← operand.requireLiteral field operator
        return make literal) = .ok wire ↔
      ∃ literal, operand.literal? = some literal ∧ wire = make literal := by
  simp only [bind_pure_eq_ok_iff, Operand.requireLiteral_eq_ok_iff]

theorem listLiteral_bind_eq_ok_iff {field : Option String} {make : Json → Json} :
    (do
        let list ← listLiteral operand field operator
        return make list) = .ok wire ↔
      ∃ values, operand.literal? = some (.array values) ∧ wire = make (.array values) := by
  cases operand with
  | array items =>
      rw [listLiteral, requireLiteral_bind_eq_ok_iff, Operand.literal?]
      constructor
      · rintro ⟨literal, found, rfl⟩
        obtain ⟨values, -, rfl⟩ := Option.map_eq_some_iff.mp found
        exact ⟨values, found, rfl⟩
      · rintro ⟨values, found, rfl⟩
        exact ⟨.array values, found, rfl⟩
  | _ => simp [listLiteral, Operand.literal?]

theorem compileIn_compare_eq_ok_iff {op : Comparison} {value : Operand} :
    compileIn scope (.compare op (some own) value) = .ok wire ↔
      (∃ path, value = .field path ∧
        wire = acrossForm (.single op.token (.array [fieldPath own, fieldPath path]))) ∨
      ∃ literal, value.literal? = some literal ∧ wire = plainForm own op.token literal := by
  rw [compileIn]
  exact oneOperand_eq_ok_iff (fun this other => .single op.token (.array [this, other]))
    requireLiteral_bind_eq_ok_iff fun ⟨_, found, _⟩ => isField_of_literal? found

theorem compileIn_membership_eq_ok_iff {op : Membership} {values : Operand} :
    compileIn scope (.membership op (some own) values) = .ok wire ↔
      (∃ path, values = .field path ∧
        wire = acrossForm (membershipCondition op (fieldPath own) (fieldPath path))) ∨
      ∃ items, values.literal? = some (.array items) ∧
        wire = plainForm own op.token (.array items) := by
  rw [compileIn]
  exact oneOperand_eq_ok_iff (membershipCondition op) listLiteral_bind_eq_ok_iff
    fun ⟨_, found, _⟩ => isField_of_literal? found

theorem compileIn_containsAll_eq_ok_iff {values : Operand} :
    compileIn scope (.containsAll (some own) values) = .ok wire ↔
      (∃ path, values = .field path ∧
        wire = acrossForm (.single "$setIsSubset" (.array [fieldPath path, fieldPath own]))) ∨
      ∃ items, values.literal? = some (.array items) ∧
        wire = plainForm own "$all" (.array items) := by
  rw [compileIn]
  exact oneOperand_eq_ok_iff (fun this other => .single "$setIsSubset" (.array [other, this]))
    listLiteral_bind_eq_ok_iff fun ⟨_, found, _⟩ => isField_of_literal? found

theorem compileIn_sizeIs_eq_ok_iff {size : Operand} :
    compileIn scope (.sizeIs (some own) size) = .ok wire ↔
      (∃ path, size = .field path ∧
        wire = acrossForm (sizeCondition (fieldPath own) (fieldPath path))) ∨
      ∃ number count, size = .number number ∧ number.toNat? = some count ∧
        wire = plainForm own "$size" (.number number) := by
  unfold compileIn
  refine oneOperand_eq_ok_iff sizeCondition ?_ ?_
  · constructor
    · intro checked
      split at checked
      next number =>
        split at checked
        next isCount =>
          cases checked
          obtain ⟨count, counted⟩ := Option.isSome_iff_exists.mp isCount
          exact ⟨number, count, rfl, counted, rfl⟩
        next => cases checked
      next => cases checked
    · rintro ⟨number, count, rfl, counted, rfl⟩
      simp only [counted, Option.isSome_some, if_true]
      rfl
  · rintro ⟨number, _, rfl, -⟩
    rfl

theorem demandNumeric_eq_ok_iff {field : Option String} {done : Unit} :
    demandNumeric operand field operator = .ok done ↔ operand.IsNumeric := by
  rw [← (demandNumeric_decides operand field operator).ok_iff]
  exact ⟨fun demanded => ⟨done, demanded⟩, fun ⟨_, demanded⟩ => demanded⟩

theorem compileIn_modulo_eq_ok_iff {divisor remainder : Operand} :
    compileIn scope (.modulo (some own) divisor remainder) = .ok wire ↔
      divisor.IsNumeric ∧ remainder.IsNumeric ∧ isZero divisor = false ∧
        wire =
          if divisor.isField || remainder.isField then
            acrossForm (remainderCondition (fieldPath own) divisor.exprForm remainder.exprForm)
          else plainForm own "$mod" (.array [divisor.exprForm, remainder.exprForm]) := by
  have demanded : demandField (some own) scope "$mod" = .ok () := rfl
  simp only [compileIn, bind_eq_ok_iff, demanded, demandNumeric_eq_ok_iff, exists_const,
    true_and]
  refine and_congr_right fun _ => and_congr_right fun _ => ?_
  cases isZero divisor <;> cases divisor.isField || remainder.isField <;>
    simp [acrossFields, underField, acrossForm, plainForm, remainderCondition, pure, Except.pure,
      eq_comm]

theorem compileIn_presence (present : Bool) :
    compileIn scope (.presence (some own) present) =
      .ok (plainForm own "$exists" (.bool present)) := by
  rw [compileIn]
  rfl

theorem compileIn_typeIs_eq_ok_iff {name : String} :
    compileIn scope (.typeIs (some own) name) = .ok wire ↔
      name ≠ "" ∧ wire = plainForm own "$type" (.string name) := by
  have demanded : demandField (some own) scope "$type" = .ok () := rfl
  simp only [compileIn, bind_eq_ok_iff, demanded, exists_const, true_and]
  constructor
  · intro checked
    split at checked
    next => cases checked
    next named =>
      cases checked
      exact ⟨by simpa using named, rfl⟩
  · rintro ⟨named, rfl⟩
    rw [if_neg (by simpa using named)]
    rfl

theorem compileIn_pattern (text : String) (options : Option String) :
    compileIn scope (.pattern (some own) text options) =
      .ok (.single own (.object (("$regex", .string text) ::
        (options.map fun option => ("$options", Json.string option)).toList))) := by
  rw [compileIn]
  rfl

theorem literal?_of_literalGeometry {op : SpatialRelation} {field : Option String} {shape : Json}
    (checked : literalGeometry op operand field = .ok shape) : operand.literal? = some shape := by
  unfold literalGeometry at checked
  split at checked
  next entries =>
    obtain ⟨found, required, checked⟩ := bind_eq_ok_iff.mp checked
    obtain ⟨type, -, checked⟩ := bind_eq_ok_iff.mp checked
    split at checked
    next =>
      cases checked
      exact Operand.requireLiteral_eq_ok_iff.mp required
    next => cases checked
  next => cases checked

/-- Whether a geometric relation has a field among its operands. -/
def IsAcross (geometry : Operand) (bounds : Option Operand × Option Operand) : Prop :=
  ∃ operand ∈ geometry :: (bounds.1.toList ++ bounds.2.toList), operand.isField = true

theorem any_isField_iff_isAcross {geometry : Operand} {minDistance maxDistance : Option Operand} :
    (geometry.isField || (distanceBounds minDistance maxDistance).any fun bound =>
      bound.2.isField) = true ↔ IsAcross geometry (minDistance, maxDistance) := by
  cases minDistance <;> cases maxDistance <;> simp [distanceBounds, IsAcross]

/-- With a field among its operands a geometric relation lists them, and else it names the
    bounds. -/
theorem compileIn_geo_cases {field : Option String} {op : SpatialRelation} {geometry : Operand}
    {minDistance maxDistance : Option Operand}
    (compiled : compileIn scope (.geo op field geometry minDistance maxDistance) = .ok wire) :
    (IsAcross geometry (minDistance, maxDistance) ∧ ∃ own, field = some own ∧
      wire = acrossForm (.single op.token (.array (fieldPath own :: geometry.exprForm ::
        (minDistance.toList ++ maxDistance.toList).map Operand.exprForm)))) ∨
    (¬IsAcross geometry (minDistance, maxDistance) ∧ ∃ shape,
      literalGeometry op geometry field = .ok shape ∧
      wire = underField field (.single op.token (.object (("$geometry", shape) ::
        (distanceBounds minDistance maxDistance).map fun bound =>
          (bound.1, bound.2.exprForm))))) := by
  have listed (done : acrossFields field op.token (fun own => .single op.token (.array
      (own :: geometry.exprForm :: (distanceBounds minDistance maxDistance).map fun bound =>
        bound.2.exprForm))) = .ok wire) :
      ∃ own, field = some own ∧
        wire = acrossForm (.single op.token (.array (fieldPath own :: geometry.exprForm ::
          (minDistance.toList ++ maxDistance.toList).map Operand.exprForm))) := by
    cases field with
    | none => cases done
    | some own =>
        cases done
        refine ⟨own, rfl, ?_⟩
        rw [← map_snd_distanceBounds, List.map_map]
        rfl
  rw [compileIn, spatialCondition] at compiled
  obtain ⟨-, -, compiled⟩ := bind_eq_ok_iff.mp compiled
  obtain ⟨-, -, compiled⟩ := bind_eq_ok_iff.mp compiled
  split at compiled
  next across =>
    refine .inl ⟨any_isField_iff_isAcross.mp across, ?_⟩
    split at compiled
    next =>
      obtain ⟨-, -, compiled⟩ := bind_eq_ok_iff.mp compiled
      exact listed compiled
    next => exact listed compiled
  next plain =>
    obtain ⟨shape, checked, rfl⟩ := bind_pure_eq_ok_iff.mp compiled
    exact .inr ⟨mt any_isField_iff_isAcross.mpr plain, shape, checked, rfl⟩

theorem compileIn_geo_unbounded {op : SpatialRelation} {geometry : Operand}
    (compiled : compileIn scope (.geo op (some own) geometry none none) = .ok wire) :
    (∃ path, geometry = .field path ∧
      wire = acrossForm (.single op.token (.array [fieldPath own, fieldPath path]))) ∨
    ∃ shape, literalGeometry op geometry (some own) = .ok shape ∧
      wire = plainForm own op.token (.single "$geometry" shape) := by
  obtain ⟨⟨operand, sole, isField⟩, _, same, rfl⟩ | ⟨-, shape, checked, rfl⟩ :=
    compileIn_geo_cases compiled
  · cases same
    cases List.mem_singleton.mp sole
    cases geometry with
    | field path => exact .inl ⟨path, rfl, rfl⟩
    | _ => cases isField
  · exact .inr ⟨shape, checked, rfl⟩

theorem compileIn_logical_eq_ok_iff {op : Connective} {children : List Expression} :
    compileIn scope (.logical op children) = .ok wire ↔
      ∃ wires, compileEach scope children = .ok wires ∧
        wire = .single op.token (.array wires) := by
  rw [compileIn, bind_pure_eq_ok_iff]

theorem compileEach_cons_eq_ok_iff {expression : Expression} {rest : List Expression}
    {wires : List Json} :
    compileEach scope (expression :: rest) = .ok wires ↔
      ∃ first others, compileIn scope expression = .ok first ∧
        compileEach scope rest = .ok others ∧ wires = first :: others := by
  rw [compileEach, bind_eq_ok_iff]
  simp only [bind_pure_eq_ok_iff, exists_and_left]

end

end Query

end DocStore
