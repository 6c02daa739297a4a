import DocStore.Proofs.Operand.Literal
import DocStore.Proofs.Query.ElementMatch
import DocStore.Proofs.Query.WireForm

/-! # Reading filters back

A reader of wire forms, which finds the expression that a filter was compiled from. It needs a
field's name not to look like an operator, each map to have a key once, and neither element
matches, whose subqueries are merged, nor distance bounds, which are not named inside an `$expr`.
-/

namespace DocStore

/-- A node that can be told from its wire form: no element match, no distance bounds, no name that
    looks like an operator, no map with a repeated key. -/
structure Expression.IsReadable (node : Expression) : Prop where
  noElementMatch : ∀ field subqueries, node ≠ .elementMatches field subqueries
  noBounds : ∀ op field geometry minDistance maxDistance,
    node = .geo op field geometry minDistance maxDistance → minDistance = none ∧ maxDistance = none
  named : ∀ own, node.field? = some own → startsWithDollar own = false
  distinct : ∀ operand ∈ node.operands, operand.HasDistinctKeys

namespace Query

/-- The operand that a number or a path stands for. -/
def readNumeric : Json → Option Operand
  | .number number => some (.number number)
  | other => (readPath other).map .field

/-- The node with a named operator that compares two fields. -/
def readCompared (own other token : String) : Option Expression :=
  ((named? Comparison.all Comparison.token token).map fun op => .compare op own (.field other)) <|>
    (named? SpatialRelation.all SpatialRelation.token token).map fun op =>
      .geo op own (.field other) none none

/-- The node that compares fields by an operator of two arguments. -/
def readPair : String → Json → Json → Option Expression
  | "$in", own, list => do return .membership .isIn (← readPath own) (.field (← readPath list))
  | "$setIsSubset", list, own => do return .containsAll (← readPath own) (.field (← readPath list))
  | "$eq", .object [("$size", own)], size => do
      return .sizeIs (← readPath own) (.field (← readPath size))
  | "$eq", .object [("$mod", .array [own, divisor])], remainder => do
      return .modulo (← readPath own) (← readNumeric divisor) (← readNumeric remainder)
  | token, own, other => do readCompared (← readPath own) (← readPath other) token

/-- The node that compares fields by a condition. -/
def readAcross : Json → Option Expression
  | .object [("$not", .array [.object [("$in", .array [own, list])]])] => do
      return .membership .notIn (← readPath own) (.field (← readPath list))
  | .object [(token, .array [first, second])] => readPair token first second
  | _ => none

/-- The node with a named operator and its operand. -/
def readNamed (own token : String) (operand : Json) : Option Expression :=
  ((named? Comparison.all Comparison.token token).map fun op =>
      .compare op own (.ofJson operand)) <|>
    ((named? Membership.all Membership.token token).map fun op =>
      .membership op own (.ofJson operand)) <|>
    match operand with
    | .object [("$geometry", shape)] =>
        (named? SpatialRelation.all SpatialRelation.token token).map fun op =>
          .geo op own (.ofJson shape) none none
    | _ => none

/-- The node with a condition on one field. -/
def readPlain (own : String) : Json → Option Expression
  | .object [("$regex", .string text)] => some (.pattern own text none)
  | .object [("$regex", .string text), ("$options", .string options)] =>
      some (.pattern own text (some options))
  | .object [("$exists", .bool present)] => some (.presence own present)
  | .object [("$type", .string name)] => some (.typeIs own name)
  | .object [("$mod", .array [divisor, remainder])] =>
      some (.modulo own (.ofJson divisor) (.ofJson remainder))
  | .object [("$all", list)] => some (.containsAll own (.ofJson list))
  | .object [("$size", size)] => some (.sizeIs own (.ofJson size))
  | .object [(token, operand)] => readNamed own token operand
  | _ => none

mutual

/-- The expression that a wire form is read as. -/
def readFilter : Json → Option Expression
  | .object [("$expr", condition)] => readAcross condition
  | .object [(token, .array wires)] => do
      let op ← named? Connective.all Connective.token token
      return .logical op (← readEach wires)
  | .object [(own, condition)] => readPlain own condition
  | _ => none
termination_by structural wire => wire

/-- The expressions that wire forms are read as, if all can be. -/
def readEach : List Json → Option (List Expression)
  | [] => some []
  | wire :: rest => do
      let first ← readFilter wire
      return first :: (← readEach rest)
termination_by structural wires => wires

end

section

variable {own other : String}

theorem readNumeric_exprForm {operand : Operand} (numeric : operand.IsNumeric) :
    readNumeric operand.exprForm = some operand := by
  cases operand with
  | number number => rfl
  | field path => simp [Operand.exprForm, fieldPath, readNumeric, readPath]
  | _ => simp [Operand.IsNumeric, Operand.isNumber, Operand.isField] at numeric

theorem named?_comparison_membership (op : Membership) :
    named? Comparison.all Comparison.token op.token = none := by
  cases op <;> rfl

theorem named?_comparison_spatial (op : SpatialRelation) :
    named? Comparison.all Comparison.token op.token = none := by
  cases op <;> rfl

theorem named?_membership_spatial (op : SpatialRelation) :
    named? Membership.all Membership.token op.token = none := by
  cases op <;> rfl

theorem readAcross_pair (token : String) (first second : Json) :
    readAcross (.single token (.array [first, second])) = readPair token first second := by
  simp [readAcross, Json.single]

theorem readAcross_paths {token : String} (notIn : token ≠ "$in")
    (notSubset : token ≠ "$setIsSubset") :
    readAcross (.single token (.array [fieldPath own, fieldPath other])) =
      readCompared own other token := by
  rw [readAcross_pair, readPair]
  · rw [readPath_fieldPath, readPath_fieldPath]
    rfl
  · exact notIn
  · exact notSubset
  -- A path is no condition on a size or a remainder.
  all_goals nofun

theorem readAcross_compare (op : Comparison) :
    readAcross (.single op.token (.array [fieldPath own, fieldPath other])) =
      some (.compare op own (.field other)) := by
  rw [readAcross_paths (by cases op <;> decide) (by cases op <;> decide), readCompared,
    named?_comparison]
  rfl

theorem readAcross_geo (op : SpatialRelation) :
    readAcross (.single op.token (.array [fieldPath own, fieldPath other])) =
      some (.geo op own (.field other) none none) := by
  rw [readAcross_paths (by cases op <;> decide) (by cases op <;> decide), readCompared,
    named?_comparison_spatial, named?_spatialRelation]
  rfl

theorem readAcross_membership (op : Membership) :
    readAcross (membershipCondition op (fieldPath own) (fieldPath other)) =
      some (.membership op own (.field other)) := by
  cases op <;> simp [membershipCondition, readAcross, readPair, Json.single]

theorem readAcross_containsAll :
    readAcross (.single "$setIsSubset" (.array [fieldPath other, fieldPath own])) =
      some (.containsAll own (.field other)) := by
  simp [readAcross_pair, readPair]

theorem readAcross_size :
    readAcross (sizeCondition (fieldPath own) (fieldPath other)) =
      some (.sizeIs own (.field other)) := by
  rw [sizeCondition, readAcross_pair]
  simp [readPair, Json.single]

theorem readAcross_remainder {divisor remainder : Operand} (dividing : divisor.IsNumeric)
    (remaining : remainder.IsNumeric) :
    readAcross (remainderCondition (fieldPath own) divisor.exprForm remainder.exprForm) =
      some (.modulo own divisor remainder) := by
  rw [remainderCondition, readAcross_pair]
  simp [readPair, Json.single, readNumeric_exprForm dividing, readNumeric_exprForm remaining]

/-- The operators that the nodes of only one kind have. -/
def ownOperators : List String :=
  ["$regex", "$exists", "$type", "$mod", "$all", "$size"]

theorem readPlain_named {token : String} (shared : token ∉ ownOperators) (operand : Json) :
    readPlain own (.single token operand) = readNamed own token operand := by
  simp only [ownOperators, List.mem_cons, List.not_mem_nil, or_false, not_or] at shared
  simp [readPlain, Json.single, shared]

theorem readPlain_compare (op : Comparison) (operand : Json) :
    readPlain own (.single op.token operand) = some (.compare op own (.ofJson operand)) := by
  rw [readPlain_named (by cases op <;> decide)]
  unfold readNamed
  rw [named?_comparison]
  rfl

theorem readPlain_membership (op : Membership) (operand : Json) :
    readPlain own (.single op.token operand) = some (.membership op own (.ofJson operand)) := by
  rw [readPlain_named (by cases op <;> decide)]
  unfold readNamed
  rw [named?_comparison_membership, named?_membership]
  rfl

theorem readPlain_geo (op : SpatialRelation) (shape : Json) :
    readPlain own (.single op.token (.single "$geometry" shape)) =
      some (.geo op own (.ofJson shape) none none) := by
  rw [readPlain_named (by cases op <;> decide)]
  unfold readNamed
  rw [named?_comparison_spatial, named?_membership_spatial, Json.single]
  exact congrArg (Option.map _) (named?_spatialRelation op)

theorem readPlain_modulo {divisor remainder : Operand} (dividing : divisor.isNumber = true)
    (remaining : remainder.isNumber = true) :
    readPlain own (.single "$mod" (.array [divisor.exprForm, remainder.exprForm])) =
      some (.modulo own divisor remainder) := by
  cases divisor <;> cases dividing
  cases remainder <;> cases remaining
  rfl

theorem readFilter_acrossForm (condition : Json) :
    readFilter (acrossForm condition) = readAcross condition := rfl

/-- A field whose name is no operator's has its own condition. -/
theorem readFilter_single (plain : startsWithDollar own = false) (members : Members) :
    readFilter (.single own (.object members)) = readPlain own (.object members) := by
  have different : own ≠ "$expr" := by
    rintro rfl
    cases plain
  rw [Json.single, readFilter]
  · exact different
  · intro _ same
    cases same

theorem readFilter_plainForm (plain : startsWithDollar own = false) (operator : String)
    (operand : Json) :
    readFilter (plainForm own operator operand) = readPlain own (.single operator operand) :=
  readFilter_single plain _

theorem readFilter_logical {wires : List Json} {children : List Expression}
    (read : readEach wires = some children) (op : Connective) :
    readFilter (.single op.token (.array wires)) = some (.logical op children) := by
  rw [Json.single, readFilter]
  · simp [read]
  · cases op <;> decide

end

/-- At the top level all nodes but the logical ones have a field. -/
theorem exists_field?_of_compileIn {node : Expression} {wire : Json}
    (leaf : ∀ op children, node ≠ .logical op children)
    (compiled : compileIn .document node = .ok wire) : ∃ own, node.field? = some own := by
  have wellFormed := isWellFormedNode_of_compileIn compiled
  rw [← Option.isSome_iff_exists]
  cases node with
  | logical op children => exact absurd rfl (leaf op children)
  | compare | membership | modulo | geo | containsAll | sizeIs | typeIs => exact wellFormed.1.1 rfl
  | presence | pattern | elementMatches => exact wellFormed.1 rfl

/-- A node that is no logical one is read back from its wire form. -/
theorem readFilter_of_leaf {node : Expression} {wire : Json} (readable : node.IsReadable)
    (leaf : ∀ op children, node ≠ .logical op children)
    (compiled : compileIn .document node = .ok wire) : readFilter wire = some node := by
  obtain ⟨own, field⟩ := exists_field?_of_compileIn leaf compiled
  have plain := readable.named own field
  have distinct := readable.distinct
  cases node with
  | compare op _ value =>
      cases field
      obtain ⟨path, rfl, rfl⟩ | ⟨literal, found, rfl⟩ := compileIn_compare_eq_ok_iff.mp compiled
      · rw [readFilter_acrossForm, readAcross_compare]
      · rw [readFilter_plainForm plain, readPlain_compare,
          Operand.ofJson_of_literal? value (distinct value (.head _)) literal found]
  | membership op _ values =>
      cases field
      obtain ⟨path, rfl, rfl⟩ | ⟨items, found, rfl⟩ := compileIn_membership_eq_ok_iff.mp compiled
      · rw [readFilter_acrossForm, readAcross_membership]
      · rw [readFilter_plainForm plain, readPlain_membership,
          Operand.ofJson_of_literal? values (distinct values (.head _)) _ found]
  | presence _ present =>
      cases field
      cases (compileIn_presence present).symm.trans compiled
      exact readFilter_plainForm plain _ _
  | typeIs _ name =>
      cases field
      obtain ⟨-, rfl⟩ := compileIn_typeIs_eq_ok_iff.mp compiled
      exact readFilter_plainForm plain _ _
  | modulo _ divisor remainder =>
      cases field
      obtain ⟨dividing, remaining, -, rfl⟩ := compileIn_modulo_eq_ok_iff.mp compiled
      split
      next => rw [readFilter_acrossForm, readAcross_remainder dividing remaining]
      next plainly =>
        rw [Bool.not_eq_true, Bool.or_eq_false_iff] at plainly
        rw [readFilter_plainForm plain, readPlain_modulo
          (dividing.resolve_right (by simp [plainly.1]))
          (remaining.resolve_right (by simp [plainly.2]))]
  | pattern _ text options =>
      cases field
      cases (compileIn_pattern text options).symm.trans compiled
      rw [readFilter_single plain]
      cases options <;> rfl
  | geo op _ geometry minDistance maxDistance =>
      cases field
      obtain ⟨rfl, rfl⟩ := readable.noBounds _ _ _ _ _ rfl
      obtain ⟨path, rfl, rfl⟩ | ⟨shape, checked, rfl⟩ := compileIn_geo_unbounded compiled
      · rw [readFilter_acrossForm, readAcross_geo]
      · rw [readFilter_plainForm plain, readPlain_geo, Operand.ofJson_of_literal? geometry
          (distinct geometry (.head _)) shape (literal?_of_literalGeometry checked)]
  | containsAll _ values =>
      cases field
      obtain ⟨path, rfl, rfl⟩ | ⟨items, found, rfl⟩ := compileIn_containsAll_eq_ok_iff.mp compiled
      · rw [readFilter_acrossForm, readAcross_containsAll]
      · have same := Operand.ofJson_of_literal? values (distinct values (.head _)) _ found
        rw [readFilter_plainForm plain, ← same]
        rfl
  | elementMatches _ subqueries => exact absurd rfl (readable.noElementMatch _ _)
  | sizeIs _ size =>
      cases field
      obtain ⟨path, rfl, rfl⟩ | ⟨number, count, rfl, -, rfl⟩ :=
        compileIn_sizeIs_eq_ok_iff.mp compiled
      · rw [readFilter_acrossForm, readAcross_size]
      · exact readFilter_plainForm plain _ _
  | logical op children => exact absurd rfl (leaf op children)

mutual

/-- The expression that a wire form was compiled from is what it is read as. -/
theorem readFilter_of_compileIn (expression : Expression)
    (readable : ∀ node ∈ expression.nodes .document, node.2.IsReadable) :
    ∀ wire, compileIn .document expression = .ok wire → readFilter wire = some expression := by
  intro wire compiled
  cases expression with
  | logical op children =>
      obtain ⟨wires, compiledEach, rfl⟩ := compileIn_logical_eq_ok_iff.mp compiled
      have childrenReadable := (List.forall_mem_cons.mp readable).2
      exact readFilter_logical
        (readEach_of_compileEach children childrenReadable wires compiledEach) op
  | _ => exact readFilter_of_leaf (readable _ (.head _)) nofun compiled

theorem readEach_of_compileEach (expressions : List Expression)
    (readable : ∀ node ∈ Expression.nodesOfEach .document expressions, node.2.IsReadable) :
    ∀ wires, compileEach .document expressions = .ok wires → readEach wires = some expressions := by
  intro wires compiled
  cases expressions with
  | nil =>
      cases compiled
      rfl
  | cons expression rest =>
      obtain ⟨firstReadable, restReadable⟩ := List.forall_mem_append.mp readable
      obtain ⟨first, others, compiledFirst, compiledRest, rfl⟩ :=
        compileEach_cons_eq_ok_iff.mp compiled
      have readFirst := readFilter_of_compileIn expression firstReadable first compiledFirst
      have readRest := readEach_of_compileEach rest restReadable others compiledRest
      simp [readEach, readFirst, readRest]

end

/-- The wire form determines the filter: two readable expressions are sent as the same query only
    when they are the same. -/
theorem compile_eq_iff {first second : Expression} {firstWire secondWire : Json}
    (firstReadable : ∀ node ∈ first.nodes .document, node.2.IsReadable)
    (secondReadable : ∀ node ∈ second.nodes .document, node.2.IsReadable)
    (firstCompiled : compile [first] = .ok firstWire)
    (secondCompiled : compile [second] = .ok secondWire) :
    firstWire = secondWire ↔ first = second := by
  have firstRead := readFilter_of_compileIn first firstReadable firstWire firstCompiled
  have secondRead := readFilter_of_compileIn second secondReadable secondWire secondCompiled
  constructor
  · rintro rfl
    exact Option.some.inj (firstRead.symm.trans secondRead)
  · rintro rfl
    exact Except.ok.inj (firstCompiled.symm.trans secondCompiled)

/-- A filter with a text that reads like the path of a field. -/
def pricedAsText : Expression :=
  .logical .or [.compare .eq (some "price") (.string "$cost"),
    .modulo (some "size") (.field "step") (.number (.ofFlag true))]

/-- The same filter with that field itself. -/
def pricedAsField : Expression :=
  .logical .or [.compare .eq (some "price") (.field "cost"),
    .modulo (some "size") (.field "step") (.number (.ofFlag true))]

theorem compile_eq_iff_pricedAsText :
    ∃ textWire fieldWire, compile [pricedAsText] = .ok textWire ∧
      compile [pricedAsField] = .ok fieldWire ∧
      (∀ node ∈ pricedAsText.nodes .document, node.2.IsReadable) ∧
      (∀ node ∈ pricedAsField.nodes .document, node.2.IsReadable) ∧
      (textWire = fieldWire ↔ pricedAsText = pricedAsField) := by
  have stepped : (Expression.modulo (some "size") (.field "step")
      (.number (.ofFlag true))).IsReadable :=
    ⟨nofun, nofun, by rintro _ ⟨⟩; rfl, List.forall_mem_cons.mpr ⟨.field _,
      List.forall_mem_singleton.mpr (.number _)⟩⟩
  have textReadable : ∀ node ∈ pricedAsText.nodes .document, node.2.IsReadable := by
    refine List.forall_mem_cons.mpr ⟨⟨nofun, nofun, nofun, nofun⟩, ?_⟩
    refine List.forall_mem_cons.mpr ⟨?_, List.forall_mem_singleton.mpr stepped⟩
    exact ⟨nofun, nofun, by rintro _ ⟨⟩; rfl, List.forall_mem_singleton.mpr (.string _)⟩
  have fieldReadable : ∀ node ∈ pricedAsField.nodes .document, node.2.IsReadable := by
    refine List.forall_mem_cons.mpr ⟨⟨nofun, nofun, nofun, nofun⟩, ?_⟩
    refine List.forall_mem_cons.mpr ⟨?_, List.forall_mem_singleton.mpr stepped⟩
    exact ⟨nofun, nofun, by rintro _ ⟨⟩; rfl, List.forall_mem_singleton.mpr (.field _)⟩
  have textCompiled : compile [pricedAsText] = .ok _ := rfl
  have fieldCompiled : compile [pricedAsField] = .ok _ := rfl
  exact ⟨_, _, textCompiled, fieldCompiled, textReadable, fieldReadable,
    compile_eq_iff textReadable fieldReadable textCompiled fieldCompiled⟩

end Query

end DocStore
