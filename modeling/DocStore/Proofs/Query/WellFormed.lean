import DocStore.Proofs.Geometry.Fault
import DocStore.Proofs.Number.Zero
import DocStore.Proofs.Operand
import DocStore.Proofs.Outcome
import DocStore.Query.Compile
import Mathlib.Tactic.Tauto

/-! # Well-formed expressions

What every node of an expression must look like, said without the compiler: where it needs a
field, and which operands it takes. The compiler accepts exactly the trees of such nodes, and
what it says about any other tree is that the caller's input is at fault.
-/

namespace DocStore

namespace Operand

/-- A number or a field. -/
def IsNumeric (operand : Operand) : Prop :=
  operand.isNumber = true ∨ operand.isField = true

/-- A field, or a literal through and through. -/
def IsFieldOrLiteral (operand : Operand) : Prop :=
  operand.isField = true ∨ operand.mentionsField = false

/-- A list of literals. -/
def IsLiteralList (operand : Operand) : Prop :=
  (∃ items, operand = .array items) ∧ operand.mentionsField = false

/-- A number that is zero. -/
def IsNumericZero (operand : Operand) : Prop :=
  ∃ number, operand = .number number ∧ number.IsZero

/-- An integer that is not negative. -/
def IsCount (operand : Operand) : Prop :=
  ∃ value lower upper, operand = .number (.integer value lower upper) ∧ 0 ≤ value

end Operand

/-- The types of geometry that make sense for a relation: areas for being within, a point for being
    near. -/
def SpatialRelation.IsAbout (op : SpatialRelation) (type : GeometryType) : Prop :=
  (op = .within → type = .polygon ∨ type = .multiPolygon) ∧ (op = .near → type = .point)

/-- A literal map that is a valid geometry of a type the relation is about. -/
def SpatialRelation.IsShape (op : SpatialRelation) (geometry : Operand) : Prop :=
  ∃ entries shape type, geometry = .map entries ∧ geometry.literal? = some shape ∧
    Geometry.validate shape = .ok type ∧ op.IsAbout type

namespace Expression

mutual

/-- The nodes of an expression, each with the scope it stands in: below an element match that is
    the element. -/
def nodes (scope : Scope) : Expression → List (Scope × Expression)
  | .elementMatches field subqueries =>
      (scope, .elementMatches field subqueries) :: nodesOfEach .element subqueries
  | .logical op children => (scope, .logical op children) :: nodesOfEach scope children
  | .compare op field value => [(scope, .compare op field value)]
  | .membership op field values => [(scope, .membership op field values)]
  | .presence field present => [(scope, .presence field present)]
  | .typeIs field name => [(scope, .typeIs field name)]
  | .modulo field divisor remainder => [(scope, .modulo field divisor remainder)]
  | .pattern field text options => [(scope, .pattern field text options)]
  | .geo op field geometry minDistance maxDistance =>
      [(scope, .geo op field geometry minDistance maxDistance)]
  | .containsAll field values => [(scope, .containsAll field values)]
  | .sizeIs field size => [(scope, .sizeIs field size)]
termination_by structural expression => expression

/-- The nodes of several expressions in one scope. -/
def nodesOfEach (scope : Scope) : List Expression → List (Scope × Expression)
  | [] => []
  | expression :: rest => nodes scope expression ++ nodesOfEach scope rest
termination_by structural expressions => expressions

end

theorem mem_nodes_self (scope : Scope) (expression : Expression) :
    (scope, expression) ∈ expression.nodes scope := by
  cases expression <;> simp [nodes]

/-- Where a node needs a field: outside of element matches, and wherever it is compared with
    another field. -/
def IsPlaced (scope : Scope) (field : Option String) (operands : List Operand) : Prop :=
  (scope = .document → field.isSome) ∧
    ((∃ operand ∈ operands, operand.isField = true) → field.isSome)

/-- Whether a node by itself is well formed in a scope. -/
def IsWellFormedNode (scope : Scope) : Expression → Prop
  | .compare _ field value => IsPlaced scope field [value] ∧ value.IsFieldOrLiteral
  | .membership _ field values | .containsAll field values =>
      IsPlaced scope field [values] ∧ (values.isField = true ∨ values.IsLiteralList)
  | .presence field _ | .pattern field _ _ | .elementMatches field _ => IsPlaced scope field []
  | .typeIs field name => IsPlaced scope field [] ∧ name ≠ ""
  | .modulo field divisor remainder =>
      IsPlaced scope field [divisor, remainder] ∧ divisor.IsNumeric ∧ remainder.IsNumeric ∧
        ¬divisor.IsNumericZero
  | .geo op field geometry minDistance maxDistance =>
      let bounds := minDistance.toList ++ maxDistance.toList
      IsPlaced scope field (geometry :: bounds) ∧
        (∀ bound ∈ bounds, op = .near ∧ bound.IsNumeric) ∧
        (geometry.isField = true ∨ op.IsShape geometry)
  | .sizeIs field size => IsPlaced scope field [size] ∧ (size.isField = true ∨ size.IsCount)
  | .logical _ _ => True

/-- Whether every node of an expression is well formed, the expression standing in a scope. -/
def IsWellFormed (scope : Scope) (expression : Expression) : Prop :=
  ∀ node ∈ expression.nodes scope, node.2.IsWellFormedNode node.1

end Expression

namespace Query

open Expression

theorem demandField_decides (field : Option String) (scope : Scope) (operator : String) :
    Decides (demandField field scope operator) (scope = .document → field.isSome) := by
  cases field with
  | some name => exact (Decides.ok ()).congr (by simp)
  | none =>
      cases scope with
      | document => exact .error (by simp) rfl
      | element => exact (Decides.ok ()).congr (by simp)

theorem acrossFields_decides (field : Option String) (operator : String) (build : Json → Json) :
    Decides (acrossFields field operator build) (field.isSome = true) := by
  cases field with
  | some name => exact (Decides.ok _).congr (by simp)
  | none => exact .error (by simp) rfl

theorem demandNumeric_decides (operand : Operand) (field : Option String) (operator : String) :
    Decides (demandNumeric operand field operator) operand.IsNumeric := by
  refine .branch (fun numeric => ?_) (fun other => .error ?_ rfl)
  · exact (Decides.ok ()).congr (by simpa [Operand.IsNumeric] using numeric)
  · simpa [Operand.IsNumeric] using other

theorem requireLiteral_decides (operand : Operand) (field operator : String) :
    Decides (operand.requireLiteral field operator) (operand.mentionsField = false) := by
  unfold Operand.requireLiteral
  split
  next value found =>
    have literal := Operand.exists_literal?_iff.mp ⟨value, found⟩
    exact (Decides.ok value).congr (by simp only [literal])
  next none =>
    have mentions := Operand.literal?_eq_none_iff.mp none
    exact .error (by simp only [mentions, Bool.true_eq_false, not_false_eq_true]) rfl

theorem listLiteral_decides (operand : Operand) (field : Option String) (operator : String) :
    Decides (listLiteral operand field operator) operand.IsLiteralList := by
  unfold listLiteral
  split
  next items =>
    refine (requireLiteral_decides _ _ _).congr ?_
    simp [Operand.IsLiteralList]
  next other notList =>
    refine .error ?_ rfl
    rintro ⟨⟨items, same⟩, -⟩
    exact notList items same

theorem isZero_iff {operand : Operand} : isZero operand = true ↔ operand.IsNumericZero := by
  cases operand with
  | number number => simp [isZero, Operand.toDouble?, Operand.IsNumericZero,
      JsonNumber.toDouble?_isZero]
  | _ => simp [isZero, Operand.toDouble?, Operand.IsNumericZero]

theorem accepts_iff {op : SpatialRelation} {type : GeometryType} :
    op.accepts type = true ↔ op.IsAbout type := by
  cases op <;> simp [SpatialRelation.accepts, SpatialRelation.IsAbout]

/-- A literal map that is valid is a shape for the relations that accept its type. -/
theorem isShape_iff {op : SpatialRelation} {entries : List (String × Operand)} {shape : Json}
    {type : GeometryType} (literal : (Operand.map entries).literal? = some shape)
    (valid : Geometry.validate shape = .ok type) :
    op.IsShape (.map entries) ↔ op.accepts type = true := by
  rw [accepts_iff]
  constructor
  · rintro ⟨_, other, otherType, -, otherLiteral, otherValid, about⟩
    rw [literal] at otherLiteral
    cases otherLiteral
    rw [valid] at otherValid
    cases otherValid
    exact about
  · intro about
    exact ⟨entries, shape, type, rfl, literal, valid, about⟩

theorem validate_decides (shape : Json) :
    Decides (Geometry.validate shape) (∃ type, Geometry.validate shape = .ok type) := by
  cases validated : Geometry.validate shape with
  | error e => exact .error (by simp) (Geometry.validate_inputFault validated)
  | ok type => exact (Decides.ok type).congr (by simp)

theorem literalGeometry_decides (op : SpatialRelation) (geometry : Operand)
    (field : Option String) :
    Decides (literalGeometry op geometry field) (op.IsShape geometry) := by
  unfold literalGeometry
  split
  next entries =>
    have isLiteral : op.IsShape (.map entries) → (Operand.map entries).mentionsField = false := by
      rintro ⟨_, shape, _, -, literal, -⟩
      exact Operand.exists_literal?_iff.mp ⟨shape, literal⟩
    refine (requireLiteral_decides _ _ _).bindOnTheWay isLiteral fun shape required => ?_
    have literal := Operand.requireLiteral_eq_ok_iff.mp required
    have isValid : op.IsShape (.map entries) → ∃ type, Geometry.validate shape = .ok type := by
      rintro ⟨_, other, type, -, otherLiteral, valid, -⟩
      rw [literal] at otherLiteral
      cases otherLiteral
      exact ⟨type, valid⟩
    refine (validate_decides shape).bindOnTheWay isValid fun type valid => ?_
    have sameShape : op.IsShape (.map entries) ↔ op.accepts type = true := isShape_iff literal valid
    refine .branch (fun accepted => ?_) (fun refused => ?_)
    · exact (Decides.ok shape).congr (by simp only [sameShape, accepted])
    · exact .error (fun isShape => refused (sameShape.mp isShape)) rfl
  next other notMap =>
    refine .error ?_ rfl
    rintro ⟨entries, _, _, same, -⟩
    exact notMap entries same

theorem demandBounds_decides (op : SpatialRelation) (field : Option String)
    (bounds : List (String × Operand)) :
    Decides (demandBounds op field bounds) (∀ bound ∈ bounds, op = .near ∧ bound.2.IsNumeric) := by
  induction bounds with
  | nil => exact (Decides.ok ()).congr (by simp)
  | cons bound rest ih =>
      obtain ⟨name, bound⟩ := bound
      rw [demandBounds]
      refine .branch (fun notNear => .error ?_ rfl) (fun near => ?_)
      · intro all
        exact notNear (all (name, bound) (by simp)).1
      · have isNear : op = .near := Decidable.not_not.mp near
        refine ((demandNumeric_decides bound field op.token).bind fun _ _ => ih).congr ?_
        simp [isNear]

theorem map_snd_distanceBounds (minDistance maxDistance : Option Operand) :
    (distanceBounds minDistance maxDistance).map Prod.snd =
      minDistance.toList ++ maxDistance.toList := by
  cases minDistance <;> cases maxDistance <;> rfl

/-- The nodes with one operand: a field is compared with it, or it is of the plain kind. -/
theorem oneOperand_decides {check : Except Error Json} {holds : Prop} (scope : Scope)
    (field : Option String) (operator : String) (operand : Operand) (build : Json → Json)
    (plain : operand.isField ≠ true → Decides check holds) :
    Decides
      (do
        demandField field scope operator
        if operand.isField = true then acrossFields field operator build else check)
      (IsPlaced scope field [operand] ∧ (operand.isField = true ∨ holds)) := by
  refine ((demandField_decides field scope operator).bind fun _ _ => ?_).congr
    (show _ ∧ ((operand.isField = true → field.isSome = true) ∧
      (operand.isField = true ∨ holds)) ↔ _ by simp [IsPlaced, and_assoc])
  refine .branch (fun isField => ?_) (fun notField => ?_)
  · exact (acrossFields_decides field operator build).congr (by simp [isField])
  · exact (plain notField).congr (by simp [notField])

/-- The nodes without operands that could be fields. -/
theorem noOperand_decides (scope : Scope) (field : Option String) (operator : String)
    (wire : Json) :
    Decides (do demandField field scope operator; return wire) (IsPlaced scope field []) :=
  ((demandField_decides field scope operator).map fun _ => wire).congr (by simp [IsPlaced])

theorem spatialCondition_decides (op : SpatialRelation) (field : Option String)
    (geometry : Operand) (minDistance maxDistance : Option Operand) (scope : Scope) :
    Decides (spatialCondition op field geometry minDistance maxDistance scope)
      ((Expression.geo op field geometry minDistance maxDistance).IsWellFormedNode scope) := by
  unfold spatialCondition
  refine Decides.congr
    ((demandField_decides field scope op.token).bind fun _ _ =>
      (demandBounds_decides op field (distanceBounds minDistance maxDistance)).bind fun _ _ =>
        (?_ : Decides _ (((geometry.isField = true ∨
            ∃ bound ∈ distanceBounds minDistance maxDistance, bound.2.isField = true) →
              field.isSome = true) ∧
          (geometry.isField = true ∨ op.IsShape geometry)))) ?_
  · refine .branch (fun compares => ?_) (fun plain => ?_)
    · have compared : geometry.isField = true ∨
          ∃ bound ∈ distanceBounds minDistance maxDistance, bound.2.isField = true := by
        simpa using compares
      refine .branch (fun notField => ?_) (fun isField => ?_)
      · have literal : ¬geometry.isField = true := by simpa using notField
        refine ((literalGeometry_decides op geometry field).bind fun _ _ =>
          acrossFields_decides field op.token _).congr ?_
        constructor
        · rintro ⟨isShape, named⟩
          exact ⟨fun _ => named, .inr isShape⟩
        · rintro ⟨named, isShape⟩
          exact ⟨isShape.resolve_left literal, named compared⟩
      · have isField : geometry.isField = true := by simpa using isField
        refine (acrossFields_decides field op.token _).congr ?_
        exact ⟨fun named => ⟨fun _ => named, .inl isField⟩, fun held => held.1 (.inl isField)⟩
    · have notCompared : ¬(geometry.isField = true ∨
          ∃ bound ∈ distanceBounds minDistance maxDistance, bound.2.isField = true) := by
        simpa using plain
      have literal : ¬geometry.isField = true := fun isField => notCompared (.inl isField)
      refine ((literalGeometry_decides op geometry field).map _).congr ?_
      constructor
      · intro isShape
        exact ⟨fun compares => absurd compares notCompared, .inr isShape⟩
      · rintro ⟨-, isShape⟩
        exact isShape.resolve_left literal
  · simp only [IsWellFormedNode, IsPlaced, ← map_snd_distanceBounds, List.mem_cons, List.mem_map,
      exists_eq_or_imp, exists_exists_and_eq_and, forall_exists_index, and_imp,
      forall_apply_eq_imp_iff₂, and_assoc]
    tauto

/-- The remaining checks of a remainder, both operands being numbers or fields. -/
theorem modulo_decides (field : Option String) (divisor remainder : Operand) :
    Decides
      (if isZero divisor = true then .error (.divisionByZero (fieldName field) "$mod")
      else if (divisor.isField || remainder.isField) = true then
        acrossFields field "$mod" fun own =>
          .single "$eq"
            (.array [.single "$mod" (.array [own, divisor.exprForm]), remainder.exprForm])
      else .ok (underField field (.single "$mod" (.array [divisor.exprForm, remainder.exprForm]))))
      (¬divisor.IsNumericZero ∧
        (divisor.isField = true ∨ remainder.isField = true → field.isSome = true)) := by
  refine .branch (fun zero => .error ?_ rfl) (fun notZero => ?_)
  · rintro ⟨notZero, -⟩
    exact notZero (isZero_iff.mp zero)
  · rw [isZero_iff] at notZero
    refine .branch (fun compares => ?_) (fun plain => ?_)
    · rw [Bool.or_eq_true] at compares
      exact (acrossFields_decides field "$mod" _).congr (by tauto)
    · rw [Bool.or_eq_true] at plain
      exact (Decides.ok _).congr (by tauto)

theorem isSome_toNat?_iff {number : JsonNumber} :
    number.toNat?.isSome = true ↔ (Operand.number number).IsCount := by
  cases number with
  | integer value lower upper =>
      cases value with
      | ofNat n =>
          have isCount : (Operand.number (.integer (.ofNat n) lower upper)).IsCount :=
            ⟨_, lower, upper, rfl, Int.natCast_nonneg n⟩
          exact ⟨fun _ => isCount, fun _ => rfl⟩
      | negSucc n => simp [JsonNumber.toNat?, Operand.IsCount]
  | double value => simp [JsonNumber.toNat?, Operand.IsCount]

theorem countCondition_decides (field : Option String) (size : Operand) :
    Decides
      (match size with
      | .number n =>
          if n.toNat?.isSome = true then .ok (underField field (.single "$size" (.number n)))
          else
            .error (.invalidOperand (fieldName field) "$size" .nonNegativeInteger
              (.operand .number))
      | other =>
          .error (.invalidOperand (fieldName field) "$size" .nonNegativeInteger
            (.operand other.kind)))
      size.IsCount := by
  cases size with
  | number n =>
      refine .branch (fun isCount => ?_) (fun notCount => .error ?_ rfl)
      · exact (Decides.ok _).congr (by simp only [isSome_toNat?_iff.mp isCount])
      · exact fun isCount => notCount (isSome_toNat?_iff.mpr isCount)
  | _ =>
      refine .error ?_ rfl
      rintro ⟨_, _, _, impossible, _⟩
      cases impossible

mutual

/-- The compiler accepts an expression exactly when all its nodes are well formed. -/
theorem compileIn_decides (scope : Scope) :
    ∀ expression : Expression, Decides (compileIn scope expression) (expression.IsWellFormed scope)
  | .compare op field value => by
      rw [compileIn]
      refine (oneOperand_decides scope field op.token value _ fun _ =>
        (requireLiteral_decides value _ _).map _).congr ?_
      simp [IsWellFormed, nodes, IsWellFormedNode, Operand.IsFieldOrLiteral]
  | .membership op field values => by
      rw [compileIn]
      refine (oneOperand_decides scope field op.token values _ fun _ =>
        (listLiteral_decides values field op.token).map _).congr ?_
      simp [IsWellFormed, nodes, IsWellFormedNode]
  | .presence field present => by
      rw [compileIn]
      refine (noOperand_decides scope field "$exists" _).congr ?_
      simp [IsWellFormed, nodes, IsWellFormedNode]
  | .typeIs field name => by
      rw [compileIn]
      have named : Decides
          (if name.toList.isEmpty = true then
            .error (.invalidOperand (fieldName field) "$type" .typeName .emptyString)
          else .ok (underField field (.single "$type" (.string name)))) (name ≠ "") := by
        refine .branch (fun empty => .error ?_ rfl) (fun filled => ?_)
        · simpa using empty
        · exact (Decides.ok _).congr (by simpa using filled)
      refine ((demandField_decides field scope "$type").bind fun _ _ => named).congr ?_
      simp [IsWellFormed, nodes, IsWellFormedNode, IsPlaced]
  | .modulo field divisor remainder => by
      rw [compileIn]
      refine ((demandField_decides field scope "$mod").bind fun _ _ =>
        (demandNumeric_decides divisor field "$mod").bind fun _ _ =>
          (demandNumeric_decides remainder field "$mod").bind fun _ _ =>
            (modulo_decides field divisor remainder)).congr ?_
      simp only [IsWellFormed, nodes, List.mem_cons, List.not_mem_nil, or_false, forall_eq,
        IsWellFormedNode, IsPlaced, exists_eq_or_imp, exists_eq_left]
      tauto
  | .pattern field text options => by
      rw [compileIn]
      refine (noOperand_decides scope field "$regex" _).congr ?_
      simp [IsWellFormed, nodes, IsWellFormedNode]
  | .geo op field geometry minDistance maxDistance => by
      rw [compileIn]
      refine (spatialCondition_decides op field geometry minDistance maxDistance scope).congr ?_
      simp [IsWellFormed, nodes]
  | .containsAll field values => by
      rw [compileIn]
      refine (oneOperand_decides scope field "$all" values _ fun _ =>
        (listLiteral_decides values field "$all").map _).congr ?_
      simp [IsWellFormed, nodes, IsWellFormedNode]
  | .elementMatches field subqueries => by
      rw [compileIn]
      refine ((demandField_decides field scope "$elemMatch").bind fun _ _ =>
        (compileEach_decides .element subqueries).map _).congr ?_
      simp [IsWellFormed, nodes, IsWellFormedNode, IsPlaced]
  | .sizeIs field size => by
      unfold compileIn
      refine (oneOperand_decides scope field "$size" size _ fun _ =>
        countCondition_decides field size).congr ?_
      simp [IsWellFormed, nodes, IsWellFormedNode]
  | .logical op children => by
      rw [compileIn]
      refine ((compileEach_decides scope children).map _).congr ?_
      simp [IsWellFormed, nodes, IsWellFormedNode]

theorem compileEach_decides (scope : Scope) :
    ∀ expressions : List Expression, Decides (compileEach scope expressions)
      (∀ node ∈ nodesOfEach scope expressions, node.2.IsWellFormedNode node.1)
  | [] => by
      rw [compileEach]
      exact (Decides.ok []).congr (by simp [nodesOfEach])
  | expression :: rest => by
      rw [compileEach]
      refine ((compileIn_decides scope expression).bind fun first _ =>
        (compileEach_decides scope rest).map _).congr ?_
      simp only [IsWellFormed, nodesOfEach, List.forall_mem_append]

end

/-- What a node demands that is compiled. -/
theorem isWellFormedNode_of_compileIn {scope : Scope} {node : Expression} {wire : Json}
    (compiled : compileIn scope node = .ok wire) : node.IsWellFormedNode scope :=
  (compileIn_decides scope node).ok_iff.mp ⟨wire, compiled⟩ _ (mem_nodes_self scope node)

theorem forall_mem_nodesOfEach {holds : Scope × Expression → Prop} {scope : Scope}
    {expressions : List Expression} :
    (∀ node ∈ nodesOfEach scope expressions, holds node) ↔
      ∀ expression ∈ expressions, ∀ node ∈ expression.nodes scope, holds node := by
  induction expressions with
  | nil => simp [nodesOfEach]
  | cons expression rest ih =>
      simp only [nodesOfEach, List.forall_mem_append, ih, List.forall_mem_cons]

theorem compile_decides (expressions : List Expression) :
    Decides (compile expressions)
      (∀ expression ∈ expressions, expression.IsWellFormed .document) := by
  match expressions with
  | [] => exact (Decides.ok _).congr (by simp)
  | [only] => exact (compileIn_decides .document only).congr (by simp)
  | first :: second :: rest =>
      refine (compileIn_decides .document (.logical .and (first :: second :: rest))).congr ?_
      simp only [IsWellFormed, nodes, List.forall_mem_cons, IsWellFormedNode, true_and,
        forall_mem_nodesOfEach]

/-- The compiler accepts exactly the well-formed expressions, and whatever else it is given is
    refused as the caller's own fault. -/
theorem compile_ok_iff_isWellFormed (expressions : List Expression) :
    ((∃ wire, compile expressions = .ok wire) ↔
        ∀ expression ∈ expressions, expression.IsWellFormed .document) ∧
      ∀ error, compile expressions = .error error → error.isInputFault = true := by
  constructor
  · exact (compile_decides expressions).ok_iff
  · intro error failed
    exact (compile_decides expressions).inputFault failed

end Query

end DocStore
