import DocStore.Proofs.Json.Distinct
import DocStore.Proofs.Query.WireForm
import DocStore.Snapshot

/-! # Truth of filters

What the two wire forms of a node say about a document. A plain condition is about the whole value
of one field; inside an `$expr`, a path stands for the value of its field. How values are ordered
and divided is left to whoever runs the query.
-/

namespace DocStore

namespace Query

/-- What filters know of values: an order, and what divisions leave. -/
structure Arithmetic where
  order : Json → Json → Ordering
  remainder? : Json → Json → Option Json
  /-- Integers are ordered as integers. -/
  order_integer : ∀ {m n : Int} {lower upper lower' upper'},
    order (.number (.integer m lower upper)) (.number (.integer n lower' upper')) = compare m n

/-- The values of a document's fields. -/
structure FieldValues where
  value? : String → Option Json
  distinct : ∀ path value, value? path = some value → value.HasDistinctKeys

end Query

/-- Whether two values in an order are as the comparison says. -/
def Comparison.holds : Comparison → Ordering → Bool
  | .eq => Ordering.isEq
  | .ne => Ordering.isNe
  | .gt => Ordering.isGT
  | .gte => Ordering.isGE
  | .lt => Ordering.isLT
  | .lte => Ordering.isLE

namespace Query

variable (arithmetic : Arithmetic) (document : FieldValues)

/-- Whether a value is among others. -/
def contains (items : List Json) (value : Json) : Bool :=
  items.any fun item => (arithmetic.order item value).isEq

/-- Whether the value of a field is as an operator and its operand demand. -/
def satisfies (value : Json) : String → Json → Bool
  | "$in", .array items => contains arithmetic items value
  | "$nin", .array items => !contains arithmetic items value
  | "$all", .array items =>
      match value with
      | .array present => items.all (contains arithmetic present)
      | _ => false
  | "$size", .number size =>
      match value with
      | .array items => size.toNat? == some items.length
      | _ => false
  | "$mod", .array [divisor, remainder] =>
      (arithmetic.remainder? value divisor).any fun left =>
        (arithmetic.order left remainder).isEq
  | token, operand =>
      (named? Comparison.all Comparison.token token).any fun op =>
        op.holds (arithmetic.order value operand)

/-- The value of an operator of one argument. -/
def applyOne : String → Json → Option Json
  | "$not", .bool truth => some (.bool !truth)
  | "$size", .array items => (JsonNumber.ofInt? items.length).map .number
  | _, _ => none

/-- The value of an operator of two arguments. -/
def applyTwo : String → Json → Json → Option Json
  | "$in", value, .array items => some (.bool (contains arithmetic items value))
  | "$setIsSubset", .array items, .array others =>
      some (.bool (items.all (contains arithmetic others)))
  | "$mod", value, divisor => arithmetic.remainder? value divisor
  | token, first, second =>
      (named? Comparison.all Comparison.token token).map fun op =>
        .bool (op.holds (arithmetic.order first second))

/-- The value of an expression inside an `$expr`. -/
def evaluate : Json → Option Json
  | .object [(operator, .array [first, second])] =>
      (evaluate first).bind fun value => (evaluate second).bind (applyTwo arithmetic operator value)
  | .object [(operator, .array [only])] => (evaluate only).bind (applyOne operator)
  | .object [(operator, argument)] => (evaluate argument).bind (applyOne operator)
  | .string text =>
      match readPath (.string text) with
      | some path => document.value? path
      | none => some (.string text)
  | .array _ | .object _ => none
  | other => some other
termination_by structural condition => condition

/-- Whether a condition on a field is true of a document. A field without a value is as no condition
    says. -/
def PlainHolds (own operator : String) (operand : Json) : Prop :=
  ∃ value, document.value? own = some value ∧ satisfies arithmetic value operator operand = true

/-- Whether a condition that compares fields is true of a document. -/
def AcrossHolds (condition : Json) : Prop :=
  evaluate arithmetic document condition = some (.bool true)

section

variable {arithmetic document}

theorem evaluate_two (operator : String) (first second : Json) :
    evaluate arithmetic document (.single operator (.array [first, second])) =
      (evaluate arithmetic document first).bind fun value =>
        (evaluate arithmetic document second).bind (applyTwo arithmetic operator value) := rfl

theorem evaluate_one (operator : String) (only : Json) :
    evaluate arithmetic document (.single operator (.array [only])) =
      (evaluate arithmetic document only).bind (applyOne operator) := rfl

theorem evaluate_fieldPath (path : String) :
    evaluate arithmetic document (fieldPath path) = document.value? path := by
  rw [fieldPath, evaluate, ← fieldPath, readPath_fieldPath]

theorem evaluate_paths (operator first second : String) :
    evaluate arithmetic document
        (.single operator (.array [fieldPath first, fieldPath second])) =
      (document.value? first).bind fun value =>
        (document.value? second).bind (applyTwo arithmetic operator value) := by
  rw [evaluate_two, evaluate_fieldPath, evaluate_fieldPath]

theorem evaluate_size (path : String) :
    evaluate arithmetic document (.single "$size" (fieldPath path)) =
      (document.value? path).bind (applyOne "$size") := by
  rw [← evaluate_fieldPath]
  rfl

theorem applyTwo_comparison (op : Comparison) (first second : Json) :
    applyTwo arithmetic op.token first second =
      some (.bool (op.holds (arithmetic.order first second))) := by
  cases op <;> rfl

theorem satisfies_comparison (op : Comparison) (value operand : Json) :
    satisfies arithmetic value op.token operand =
      op.holds (arithmetic.order value operand) := by
  cases op <;> rfl

theorem applyTwo_setIsSubset_iff {items : List Json} {value : Json} :
    applyTwo arithmetic "$setIsSubset" (.array items) value = some (.bool true) ↔
      satisfies arithmetic value "$all" (.array items) = true := by
  cases value with
  | array present => simp [applyTwo, satisfies]
  | _ => simp [applyTwo, satisfies, named?, Comparison.all, Comparison.token]

theorem applyTwo_mod_iff {value divisor remainder : Json} :
    ((applyTwo arithmetic "$mod" value divisor).bind fun left =>
        applyTwo arithmetic "$eq" left remainder) = some (.bool true) ↔
      satisfies arithmetic value "$mod" (.array [divisor, remainder]) = true := by
  have divided : applyTwo arithmetic "$mod" value divisor =
      arithmetic.remainder? value divisor := rfl
  rw [divided, satisfies]
  cases arithmetic.remainder? value divisor with
  | none => simp
  | some left =>
      have compared : applyTwo arithmetic "$eq" left remainder =
          some (.bool (arithmetic.order left remainder).isEq) :=
        applyTwo_comparison .eq left remainder
      simp [compared]

theorem exists_integer_of_toNat? {number : JsonNumber} {n : Nat}
    (counted : number.toNat? = some n) : ∃ lower upper, number = .integer n lower upper := by
  cases number with
  | integer value lower upper =>
      cases value with
      | ofNat k =>
          cases counted
          exact ⟨lower, upper, rfl⟩
      | negSucc k => cases counted
  | double value => cases counted

/-- The length of an array is compared as an integer, which the length of one beyond the range of
    integers is not. -/
theorem applyOne_size_iff {value : Json} {size : JsonNumber} {count : Nat}
    (counted : size.toNat? = some count) :
    ((applyOne "$size" value).bind fun length =>
        applyTwo arithmetic "$eq" length (.number size)) = some (.bool true) ↔
      satisfies arithmetic value "$size" (.number size) = true := by
  cases value with
  | array items =>
      have counts : satisfies arithmetic (.array items) "$size" (.number size) = true ↔
          count = items.length := by
        simp [satisfies, counted]
      rw [counts]
      obtain ⟨lower, upper, rfl⟩ := exists_integer_of_toNat? counted
      by_cases fits : (items.length : Int) < 18446744073709551616
      · have length : applyOne "$size" (.array items) =
            some (.number (.integer items.length (by omega) fits)) := by
          rw [applyOne, JsonNumber.ofInt?, dif_pos ⟨by omega, fits⟩]
          rfl
        rw [length, Option.bind_some]
        have compared : applyTwo arithmetic "$eq"
            (.number (.integer items.length (by omega) fits))
            (.number (.integer count lower upper)) =
            some (.bool (compare (items.length : Int) count).isEq) :=
          (applyTwo_comparison .eq _ _).trans (by rw [arithmetic.order_integer]; rfl)
        rw [compared, Option.some.injEq, Json.bool.injEq, Ordering.isEq_iff_eq_eq,
          Std.compare_eq_iff_eq]
        omega
      · have long : applyOne "$size" (.array items) = none := by
          rw [applyOne, JsonNumber.ofInt?, dif_neg fun both => fits both.2]
          rfl
        have different : count ≠ items.length := by omega
        simp [long, different]
  | _ => simp [applyOne, satisfies]

end

theorem hasDistinctKeys_of_lookup {members : Members} {key : String} {value : Json}
    (all : ∀ member ∈ members, member.2.HasDistinctKeys)
    (found : members.lookup key = some value) : value.HasDistinctKeys :=
  all (key, value) (Members.mem_of_find? found)

theorem hasDistinctKeys_of_get? {container value : Json} {key : String}
    (distinct : container.HasDistinctKeys) (found : container.get? key = some value) :
    value.HasDistinctKeys := by
  cases distinct with
  | object _ all => exact hasDistinctKeys_of_lookup all found
  | _ => cases found

theorem hasDistinctKeys_of_path {parts : List String} {start : Option Json}
    (distinct : ∀ container, start = some container → container.HasDistinctKeys) :
    ∀ value, parts.foldl (fun current part => current.bind fun value => value.get? part) start =
      some value → value.HasDistinctKeys := by
  induction parts generalizing start with
  | nil => exact distinct
  | cons part rest ih =>
      refine ih fun inner found => ?_
      obtain ⟨container, stored, found⟩ := Option.bind_eq_some_iff.mp found
      exact hasDistinctKeys_of_get? (distinct container stored) found

/-- The values that a document has at dotted paths. -/
def FieldValues.ofDocument (document : Document)
    (distinct : (Json.object document.fields).HasDistinctKeys) : FieldValues where
  value? := document.get?
  distinct path value found := by
    unfold Document.get? at found
    split at found
    next => cases found
    next first rest _ =>
      cases distinct with
      | object _ all =>
          exact hasDistinctKeys_of_path (fun _ stored => hasDistinctKeys_of_lookup all stored)
            value found

end Query

end DocStore
