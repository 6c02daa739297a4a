import DocStore.Proofs.Operand.Literal
import DocStore.Proofs.Query.ElementMatch
import DocStore.Proofs.Query.Truth

/-! # Operands that are fields

A field as an operand means its value: what a node says of a document is what it says with the
values of the fields in their places, although the first is said by comparing fields inside an
`$expr` and the second by a plain condition.
-/

namespace DocStore

open Query

namespace Operand

variable (document : FieldValues)

mutual

/-- The operand with the values of fields in their places, if all have one. -/
def atValues? : Operand → Option Operand
  | .field path => (document.value? path).map ofJson
  | .array items => (itemsAtValues? items).map .array
  | .map entries => (entriesAtValues? entries).map .map
  | literal => some literal
termination_by structural operand => operand

/-- The items with the values of fields in their places. -/
def itemsAtValues? : List Operand → Option (List Operand)
  | [] => some []
  | item :: rest => do
      let first ← atValues? item
      return first :: (← itemsAtValues? rest)
termination_by structural items => items

/-- The entries with the values of fields in their places. -/
def entriesAtValues? : List (String × Operand) → Option (List (String × Operand))
  | [] => some []
  | (key, entry) :: rest => do
      let first ← atValues? entry
      return (key, first) :: (← entriesAtValues? rest)
termination_by structural entries => entries

end

end Operand

/-- A node that tests the value of its field, with the values of the fields among its operands in
    their places. -/
def Expression.atValues? (document : FieldValues) : Expression → Option Expression
  | .compare op field value => (value.atValues? document).map (.compare op field)
  | .membership op field values => (values.atValues? document).map (.membership op field)
  | .containsAll field values => (values.atValues? document).map (.containsAll field)
  | .sizeIs field size => (size.atValues? document).map (.sizeIs field)
  | .modulo field divisor remainder =>
      (divisor.atValues? document).bind fun divisor =>
        (remainder.atValues? document).map (.modulo field divisor)
  | _ => none

namespace Query

variable {arithmetic : Arithmetic} {document : FieldValues} {scope : Scope} {own : String}
  {wire plain : Json}

/-- Two wire forms of one test, the first comparing fields and the second plain, that are equally
    true of a document. -/
def IsSameTest (arithmetic : Arithmetic) (document : FieldValues) (own : String)
    (across plain : Json) : Prop :=
  ∃ condition operator operand, across = acrossForm condition ∧
    plain = plainForm own operator operand ∧
    (AcrossHolds arithmetic document condition ↔
      PlainHolds arithmetic document own operator operand)

theorem isSameTest_of_evaluate {condition operand : Json} {operator : String}
    {test : Json → Option Json}
    (evaluated : evaluate arithmetic document condition = (document.value? own).bind test)
    (same : ∀ value, test value = some (.bool true) ↔
      satisfies arithmetic value operator operand = true) :
    IsSameTest arithmetic document own (acrossForm condition)
      (plainForm own operator operand) := by
  refine ⟨condition, operator, operand, rfl, rfl, ?_⟩
  rw [AcrossHolds, PlainHolds, evaluated, Option.bind_eq_some_iff]
  exact exists_congr fun value => and_congr_right fun _ => same value

theorem isField_of_atValues? {operand replaced : Operand}
    (values : operand.atValues? document = some replaced) : replaced.isField = false := by
  cases operand with
  | field path =>
      obtain ⟨value, -, rfl⟩ := Option.map_eq_some_iff.mp values
      cases value <;> rfl
  | array | map =>
      obtain ⟨_, -, rfl⟩ := Option.map_eq_some_iff.mp values
      rfl
  | null | bool | number | string =>
      cases values
      rfl

theorem value?_of_literal? {path : String} {replaced : Operand} {literal : Json}
    (values : (Operand.field path).atValues? document = some replaced)
    (found : replaced.literal? = some literal) : document.value? path = some literal := by
  obtain ⟨value, stored, rfl⟩ := Option.map_eq_some_iff.mp values
  rw [Operand.literal?_ofJson value (document.distinct path value stored)] at found
  cases found
  exact stored

theorem compare_isSameTest {op : Comparison} {path : String} {replaced : Operand}
    (values : (Operand.field path).atValues? document = some replaced)
    (compiled : compileIn scope (.compare op (some own) replaced) = .ok plain) :
    IsSameTest arithmetic document own
      (acrossForm (.single op.token (.array [fieldPath own, fieldPath path]))) plain := by
  have notField := isField_of_atValues? values
  obtain ⟨_, rfl, -⟩ | ⟨literal, found, rfl⟩ := compileIn_compare_eq_ok_iff.mp compiled
  · cases notField
  · have stored := value?_of_literal? values found
    refine isSameTest_of_evaluate (by rw [evaluate_paths, stored]) ?_
    intro value
    simp [applyTwo_comparison, satisfies_comparison]

theorem membership_isSameTest {op : Membership} {path : String} {replaced : Operand}
    (values : (Operand.field path).atValues? document = some replaced)
    (compiled : compileIn scope (.membership op (some own) replaced) = .ok plain) :
    IsSameTest arithmetic document own
      (acrossForm (membershipCondition op (fieldPath own) (fieldPath path))) plain := by
  have notField := isField_of_atValues? values
  obtain ⟨_, rfl, -⟩ | ⟨items, found, rfl⟩ := compileIn_membership_eq_ok_iff.mp compiled
  · cases notField
  · have stored := value?_of_literal? values found
    have tested : evaluate arithmetic document
        (.single "$in" (.array [fieldPath own, fieldPath path])) =
        (document.value? own).bind fun value =>
          some (.bool (contains arithmetic items value)) := by
      rw [evaluate_paths, stored]
      rfl
    cases op with
    | isIn =>
        refine isSameTest_of_evaluate tested ?_
        intro value
        simp [Membership.token, satisfies]
    | notIn =>
        have negated : evaluate arithmetic document (.single "$not"
            (.array [.single "$in" (.array [fieldPath own, fieldPath path])])) =
            (document.value? own).bind fun value =>
              some (.bool !contains arithmetic items value) := by
          rw [evaluate_one, tested, Option.bind_assoc]
          rfl
        refine isSameTest_of_evaluate negated ?_
        intro value
        simp [Membership.token, satisfies]

theorem containsAll_isSameTest {path : String} {replaced : Operand}
    (values : (Operand.field path).atValues? document = some replaced)
    (compiled : compileIn scope (.containsAll (some own) replaced) = .ok plain) :
    IsSameTest arithmetic document own
      (acrossForm (.single "$setIsSubset" (.array [fieldPath path, fieldPath own]))) plain := by
  have notField := isField_of_atValues? values
  obtain ⟨_, rfl, -⟩ | ⟨items, found, rfl⟩ := compileIn_containsAll_eq_ok_iff.mp compiled
  · cases notField
  · have stored := value?_of_literal? values found
    exact isSameTest_of_evaluate (by rw [evaluate_paths, stored]; rfl)
      fun _ => applyTwo_setIsSubset_iff

theorem sizeIs_isSameTest {path : String} {replaced : Operand}
    (values : (Operand.field path).atValues? document = some replaced)
    (compiled : compileIn scope (.sizeIs (some own) replaced) = .ok plain) :
    IsSameTest arithmetic document own
      (acrossForm (sizeCondition (fieldPath own) (fieldPath path))) plain := by
  have notField := isField_of_atValues? values
  obtain ⟨_, rfl, -⟩ | ⟨size, count, rfl, counted, rfl⟩ := compileIn_sizeIs_eq_ok_iff.mp compiled
  · cases notField
  · have stored := value?_of_literal? values rfl
    have evaluated : evaluate arithmetic document
        (sizeCondition (fieldPath own) (fieldPath path)) =
        (document.value? own).bind fun value =>
          (applyOne "$size" value).bind fun length =>
            applyTwo arithmetic "$eq" length (.number size) := by
      rw [sizeCondition, evaluate_two, evaluate_size, evaluate_fieldPath, stored,
        Option.bind_assoc]
      rfl
    exact isSameTest_of_evaluate evaluated fun _ => applyOne_size_iff counted

/-- A numeric operand has the value that stands in its place. -/
theorem evaluate_exprForm {operand replaced : Operand}
    (values : operand.atValues? document = some replaced) (numeric : replaced.IsNumeric) :
    operand.IsNumeric ∧ ∃ number, replaced = .number number ∧ ∀ arithmetic,
      evaluate arithmetic document operand.exprForm = some (.number number) := by
  cases operand with
  | number number =>
      cases values
      exact ⟨.inl rfl, number, rfl, fun _ => rfl⟩
  | field path =>
      obtain ⟨value, stored, rfl⟩ := Option.map_eq_some_iff.mp values
      cases value with
      | number number =>
          exact ⟨.inr rfl, number, rfl, fun _ => (evaluate_fieldPath path).trans stored⟩
      | _ => simp [Operand.IsNumeric, Operand.ofJson, Operand.isNumber, Operand.isField] at numeric
  | array | map =>
      obtain ⟨_, -, rfl⟩ := Option.map_eq_some_iff.mp values
      simp [Operand.IsNumeric, Operand.isNumber, Operand.isField] at numeric
  | null | bool | string =>
      cases values
      simp [Operand.IsNumeric, Operand.isNumber, Operand.isField] at numeric

theorem modulo_isSameTest {divisor remainder divisorValue remainderValue : Operand}
    (divisorAt : divisor.atValues? document = some divisorValue)
    (remainderAt : remainder.atValues? document = some remainderValue)
    (compiled : compileIn scope (.modulo (some own) divisorValue remainderValue) = .ok plain) :
    IsSameTest arithmetic document own
      (acrossForm (remainderCondition (fieldPath own) divisor.exprForm remainder.exprForm))
      plain := by
  obtain ⟨dividing, remaining, -, rfl⟩ := compileIn_modulo_eq_ok_iff.mp compiled
  obtain ⟨-, d, rfl, dividedBy⟩ := evaluate_exprForm divisorAt dividing
  obtain ⟨-, r, rfl, leaving⟩ := evaluate_exprForm remainderAt remaining
  have evaluated : evaluate arithmetic document
      (remainderCondition (fieldPath own) divisor.exprForm remainder.exprForm) =
      (document.value? own).bind fun value =>
        (applyTwo arithmetic "$mod" value (.number d)).bind fun left =>
          applyTwo arithmetic "$eq" left (.number r) := by
    rw [remainderCondition, evaluate_two, evaluate_two, evaluate_fieldPath, dividedBy, leaving,
      Option.bind_assoc]
    rfl
  exact isSameTest_of_evaluate evaluated fun _ => applyTwo_mod_iff

/-- A node with one operand, which mentions a field, compiles only when that is a field itself. -/
theorem soleOperand_agrees {node : Expression} {operand : Operand} {across : String → Json}
    {literalForm : Json → Prop} (sole : node.operands = [operand])
    (mentions : ∃ operand ∈ node.operands, operand.mentionsField = true)
    (forms : ∀ wire, compileIn scope node = .ok wire ↔
      (∃ path, operand = .field path ∧ wire = across path) ∨ literalForm wire)
    (literal : ∀ wire, literalForm wire → ∃ value, operand.literal? = some value)
    (agrees : ∀ path, operand = .field path →
      IsSameTest arithmetic document own (across path) plain) :
    ((∃ wire, compileIn scope node = .ok wire) ↔
        ∃ operand ∈ node.operands, operand.isField = true) ∧
      ∀ wire, compileIn scope node = .ok wire →
        IsSameTest arithmetic document own wire plain := by
  simp only [sole, List.mem_singleton, exists_eq_left] at mentions ⊢
  have noLiteral : ∀ wire, ¬literalForm wire := by
    intro wire isLiteral
    rw [Operand.exists_literal?_iff.mp (literal wire isLiteral)] at mentions
    cases mentions
  simp only [forms, noLiteral, or_false]
  constructor
  · constructor
    · rintro ⟨_, path, rfl, -⟩
      rfl
    · intro isField
      cases operand with
      | field path => exact ⟨_, path, rfl, rfl⟩
      | _ => cases isField
  · rintro _ ⟨path, same, rfl⟩
    exact agrees path same

theorem isZero_of_atValues? {operand replaced : Operand}
    (values : operand.atValues? document = some replaced) (notZero : isZero replaced = false) :
    isZero operand = false := by
  cases operand with
  | number number =>
      cases values
      exact notZero
  | _ => rfl

theorem isField_of_numeric {operand : Operand} (numeric : operand.IsNumeric)
    (mentions : operand.mentionsField = true) : operand.isField = true := by
  cases operand with
  | field path => rfl
  | number number => cases mentions
  | _ => simp [Operand.IsNumeric, Operand.isNumber, Operand.isField] at numeric

theorem modulo_agrees {divisor remainder divisorValue remainderValue : Operand}
    (divisorAt : divisor.atValues? document = some divisorValue)
    (remainderAt : remainder.atValues? document = some remainderValue)
    (mentions : ∃ operand ∈ [divisor, remainder], operand.mentionsField = true)
    (compiled : compileIn scope (.modulo (some own) divisorValue remainderValue) = .ok plain) :
    ((∃ wire, compileIn scope (.modulo (some own) divisor remainder) = .ok wire) ↔
        ∃ operand ∈ [divisor, remainder], operand.isField = true) ∧
      ∀ wire, compileIn scope (.modulo (some own) divisor remainder) = .ok wire →
        IsSameTest arithmetic document own wire plain := by
  have same : IsSameTest arithmetic document own _ plain :=
    modulo_isSameTest divisorAt remainderAt compiled
  obtain ⟨dividing, remaining, notZero, -⟩ := compileIn_modulo_eq_ok_iff.mp compiled
  have divisorNumeric := (evaluate_exprForm divisorAt dividing).1
  have remainderNumeric := (evaluate_exprForm remainderAt remaining).1
  have someField : ∃ operand ∈ [divisor, remainder], operand.isField = true := by
    obtain ⟨operand, inside, mentions⟩ := mentions
    have numeric : operand.IsNumeric := by
      obtain rfl | rfl : operand = divisor ∨ operand = remainder := by simpa using inside
      · exact divisorNumeric
      · exact remainderNumeric
    exact ⟨operand, inside, isField_of_numeric numeric mentions⟩
  have across : (divisor.isField || remainder.isField) = true := by simpa using someField
  simp only [compileIn_modulo_eq_ok_iff, across, if_true]
  have nonZero := isZero_of_atValues? divisorAt notZero
  constructor
  · exact ⟨fun _ => someField, fun _ => ⟨_, divisorNumeric, remainderNumeric, nonZero, rfl⟩⟩
  · rintro _ ⟨-, -, -, rfl⟩
    exact same

/-- A field among the operands of a node means its value. The node compiles when such an operand is
    a field itself, and then it compares fields in an `$expr` where the node with the values in
    their places has the plain form, and the two are equally true. -/
theorem compileIn_isSameTest {node valued : Expression} (named : node.field? = some own)
    (mentions : ∃ operand ∈ node.operands, operand.mentionsField = true)
    (values : node.atValues? document = some valued)
    (compiled : compileIn scope valued = .ok plain) :
    ((∃ wire, compileIn scope node = .ok wire) ↔
        ∃ operand ∈ node.operands, operand.isField = true) ∧
      ∀ wire, compileIn scope node = .ok wire →
        IsSameTest arithmetic document own wire plain := by
  cases node with
  | compare op _ value =>
      cases named
      obtain ⟨replaced, operandAt, rfl⟩ := Option.map_eq_some_iff.mp values
      refine soleOperand_agrees rfl mentions (fun _ => compileIn_compare_eq_ok_iff)
        (fun _ ⟨_, found, _⟩ => ⟨_, found⟩) ?_
      rintro path rfl
      exact compare_isSameTest operandAt compiled
  | membership op _ list =>
      cases named
      obtain ⟨replaced, operandAt, rfl⟩ := Option.map_eq_some_iff.mp values
      refine soleOperand_agrees rfl mentions (fun _ => compileIn_membership_eq_ok_iff)
        (fun _ ⟨_, found, _⟩ => ⟨_, found⟩) ?_
      rintro path rfl
      exact membership_isSameTest operandAt compiled
  | containsAll _ list =>
      cases named
      obtain ⟨replaced, operandAt, rfl⟩ := Option.map_eq_some_iff.mp values
      refine soleOperand_agrees rfl mentions (fun _ => compileIn_containsAll_eq_ok_iff)
        (fun _ ⟨_, found, _⟩ => ⟨_, found⟩) ?_
      rintro path rfl
      exact containsAll_isSameTest operandAt compiled
  | sizeIs _ size =>
      cases named
      obtain ⟨replaced, operandAt, rfl⟩ := Option.map_eq_some_iff.mp values
      refine soleOperand_agrees rfl mentions (fun _ => compileIn_sizeIs_eq_ok_iff) ?_ ?_
      · rintro _ ⟨number, _, rfl, -⟩
        exact ⟨.number number, rfl⟩
      · rintro path rfl
        exact sizeIs_isSameTest operandAt compiled
  | modulo _ divisor remainder =>
      cases named
      obtain ⟨divisorValue, divisorAt, values⟩ := Option.bind_eq_some_iff.mp values
      obtain ⟨remainderValue, remainderAt, rfl⟩ := Option.map_eq_some_iff.mp values
      exact modulo_agrees divisorAt remainderAt mentions compiled
  | presence | typeIs | pattern | geo | elementMatches | logical => cases values

/-- Integers compared and divided as integers, the quotient being rounded towards zero; any other
    values are only told apart. -/
def integerArithmetic : Arithmetic where
  order
    | .number (.integer m _ _), .number (.integer n _ _) => compare m n
    | first, second => if first = second then .eq else .lt
  remainder?
    | .number (.integer m _ _), .number (.integer n _ _) =>
        if n = 0 then none else (JsonNumber.ofInt? (m.tmod n)).map .number
    | _, _ => none
  order_integer := rfl

/-- A document with a list and its length. -/
def article : Document where
  reference := { segments := ["articles", "first"], database := "db" }
  fields := [("tags", .array [.string "news", .string "local"]), ("count", .number (.ofUInt64 2))]

/-- The test that the list has the length that the document says. -/
def countedTags : Expression :=
  .sizeIs (some "tags") (.field "count")

theorem article_hasDistinctKeys : (Json.object article.fields).HasDistinctKeys := by
  refine .object (by decide) ?_
  have tags : (Json.array [.string "news", .string "local"]).HasDistinctKeys :=
    .array (List.forall_mem_cons.mpr ⟨.string _, List.forall_mem_singleton.mpr (.string _)⟩)
  exact List.forall_mem_cons.mpr ⟨tags, List.forall_mem_singleton.mpr (.number _)⟩

theorem compileIn_isSameTest_countedTags :
    ∃ valued plain wire,
      countedTags.atValues? (.ofDocument article article_hasDistinctKeys) = some valued ∧
      compileIn .document valued = .ok plain ∧ compileIn .document countedTags = .ok wire ∧
      IsSameTest integerArithmetic (.ofDocument article article_hasDistinctKeys) "tags" wire
        plain := by
  have values : countedTags.atValues? (.ofDocument article article_hasDistinctKeys) =
      some (.sizeIs (some "tags") (.number (.ofUInt64 2))) := rfl
  have compiled : compileIn .document (.sizeIs (some "tags") (.number (.ofUInt64 2))) =
      .ok (plainForm "tags" "$size" (.number (.ofUInt64 2))) := rfl
  have across : compileIn .document countedTags =
      .ok (acrossForm (sizeCondition (fieldPath "tags") (fieldPath "count"))) := rfl
  have mentions : ∃ operand ∈ countedTags.operands, operand.mentionsField = true :=
    ⟨.field "count", .head _, rfl⟩
  exact ⟨_, _, _, values, compiled, across,
    (compileIn_isSameTest rfl mentions values compiled).2 _ across⟩

end Query

end DocStore
