import DocStore.Proofs.Outcome
import DocStore.Proofs.Query.Condition

/-! # Element matches

Every compiled subquery is a fragment that merging does not spoil, whatever its kind, as long as
its field is not named like the conjunction slot. So the body of an element match has exactly the
conditions of its subqueries.
-/

namespace DocStore.Query

open Members

theorem isMergeable_operator {operator : String} (marked : startsWithDollar operator = true)
    (notConjunction : operator ≠ conjunctionKey) (operand : Json) :
    IsMergeable operator operand where
  isList same := absurd same notConjunction
  distinct plain := by
    rw [marked] at plain
    cases plain

/-- What the value of a field looks like: different operators, each of which could stand in a
    body by itself. -/
structure IsOperatorMap (entries : Members) : Prop where
  distinct : (keys entries).Nodup
  mergeable : ∀ entry ∈ entries, IsMergeable entry.1 entry.2

theorem IsOperatorMap.single {operator : String} {operand : Json}
    (mergeable : IsMergeable operator operand) : IsOperatorMap [(operator, operand)] where
  distinct := by simp [keys]
  mergeable := by
    intro entry mem
    cases List.mem_singleton.mp mem
    exact mergeable

theorem IsOperatorMap.underField {entries : Members} (isMap : IsOperatorMap entries)
    {field : Option String} (named : field ≠ some conjunctionKey) :
    IsFragment (underField field (.object entries)) := by
  cases field with
  | none => exact ⟨entries, rfl, isMap.mergeable⟩
  | some name =>
      refine ⟨[(name, .object entries)], rfl, ?_⟩
      intro member mem
      cases List.mem_singleton.mp mem
      exact {
        isList := fun same => absurd (congrArg some same) named
        distinct := fun _ _ same => by
          cases same
          exact isMap.distinct }

theorem underField_single_isFragment {field : Option String}
    (named : field ≠ some conjunctionKey) {operator : String}
    (marked : startsWithDollar operator = true) (notConjunction : operator ≠ conjunctionKey)
    (operand : Json) : IsFragment (underField field (.single operator operand)) :=
  (IsOperatorMap.single (isMergeable_operator marked notConjunction operand)).underField named

theorem single_isFragment {key : String} {value : Json} (mergeable : IsMergeable key value) :
    IsFragment (.single key value) := by
  refine ⟨[(key, value)], rfl, ?_⟩
  intro member mem
  cases List.mem_singleton.mp mem
  exact mergeable

theorem pattern_isOperatorMap (pattern : String) (options : Option String) :
    IsOperatorMap (("$regex", .string pattern) ::
      (options.map fun text => ("$options", Json.string text)).toList) where
  distinct := by cases options <;> simp [keys]
  mergeable := by
    have regex := isMergeable_operator (by decide : startsWithDollar "$regex" = true)
      (by decide) (.string pattern)
    cases options with
    | none => simpa using regex
    | some text =>
        have flags := isMergeable_operator (by decide : startsWithDollar "$options" = true)
          (by decide) (.string text)
        simpa using ⟨regex, flags⟩

theorem connective_isMergeable (op : Connective) (children : List Json) :
    IsMergeable op.token (.array children) where
  isList _ := ⟨children, rfl⟩
  distinct _ _ same := by cases same

/-- The one operator that is not marked as one holds an object with different keys. -/
theorem spatial_isMergeable (op : SpatialRelation) (shape : Json)
    (minDistance maxDistance : Option Operand) :
    IsMergeable op.token (.object (("$geometry", shape) ::
      (distanceBounds minDistance maxDistance).map fun bound =>
        (bound.1, bound.2.exprForm))) where
  isList same := by cases op <;> exact absurd same (by decide)
  distinct _ entries same := by
    cases same
    cases minDistance <;> cases maxDistance <;> simp [keys, distanceBounds]

end DocStore.Query

namespace DocStore

namespace Expression

/-- The field that a node tests, if it names one. -/
def field? : Expression → Option String
  | .compare _ field _ | .membership _ field _ | .presence field _ | .typeIs field _
  | .modulo field _ _ | .pattern field _ _ | .geo _ field _ _ _ | .containsAll field _
  | .elementMatches field _ | .sizeIs field _ => field
  | .logical _ _ => none

/-- Whether a node is one operator with its operands. -/
def isSimple : Expression → Bool
  | .compare _ _ _ | .membership _ _ _ | .presence _ _ | .typeIs _ _ | .modulo _ _ _
  | .geo _ _ _ _ _ | .containsAll _ _ | .sizeIs _ _ => true
  | .pattern _ _ _ | .elementMatches _ _ | .logical _ _ => false

end Expression

namespace Query

/-- The operators with an operand that is data. -/
def dataOperators : List String :=
  Comparison.all.map Comparison.token ++ Membership.all.map Membership.token ++
    ["$exists", "$type", "$mod", "$all", "$size"]

/-- What expressions are compiled to. -/
inductive HasShape (scope : Scope) : Expression → Json → Prop
  | across {node : Expression} (simple : node.isSimple = true) (condition : Json) :
      HasShape scope node (.single "$expr" condition)
  | plain {node : Expression} (simple : node.isSimple = true) {operator : String}
      (isData : operator ∈ dataOperators) (operand : Json) :
      HasShape scope node (underField node.field? (.single operator operand))
  | spatial (op : SpatialRelation) (field : Option String) (geometry : Operand)
      (minDistance maxDistance : Option Operand) (shape : Json) :
      HasShape scope (.geo op field geometry minDistance maxDistance)
        (underField field (.single op.token (.object (("$geometry", shape) ::
          (distanceBounds minDistance maxDistance).map fun bound => (bound.1, bound.2.exprForm)))))
  | pattern (field : Option String) (text : String) (options : Option String) :
      HasShape scope (.pattern field text options)
        (underField field (.object (("$regex", .string text) ::
          (options.map fun given => ("$options", Json.string given)).toList)))
  | elementMatches (field : Option String) {subqueries : List Expression} {fragments : List Json}
      (compiled : compileEach .element subqueries = .ok fragments) :
      HasShape scope (.elementMatches field subqueries)
        (underField field (.single "$elemMatch" (.object (fragments.foldl merge []))))
  | logical (op : Connective) {children : List Expression} {wires : List Json}
      (compiled : compileEach scope children = .ok wires) :
      HasShape scope (.logical op children) (.single op.token (.array wires))

theorem acrossFields_hasShape {scope : Scope} {node : Expression} (simple : node.isSimple = true)
    (field : Option String) (operator : String) (build : Json → Json) :
    Ensures (acrossFields field operator build) (HasShape scope node) := by
  cases field with
  | none => exact .error _
  | some name => exact .ok (.across simple _)

/-- Each kind of node is compiled to its shapes. -/
theorem compileIn_hasShape (scope : Scope) (expression : Expression) :
    Ensures (compileIn scope expression) (HasShape scope expression) := by
  cases expression with
  | compare op field value =>
      rw [compileIn]
      refine .bind fun _ _ => .branch (fun _ => ?_) (fun _ => .bind fun literal _ => .ok ?_)
      · exact acrossFields_hasShape rfl field _ _
      · exact .plain rfl (by cases op <;> decide) literal
  | membership op field values =>
      rw [compileIn]
      refine .bind fun _ _ => .branch (fun _ => ?_) (fun _ => .bind fun list _ => .ok ?_)
      · exact acrossFields_hasShape rfl field _ _
      · exact .plain rfl (by cases op <;> decide) list
  | presence field present =>
      rw [compileIn]
      exact .bind fun _ _ => .ok (.plain rfl (by decide) _)
  | typeIs field name =>
      rw [compileIn]
      exact .bind fun _ _ => .branch (fun _ => .error _) fun _ => .ok (.plain rfl (by decide) _)
  | modulo field divisor remainder =>
      rw [compileIn]
      refine .bind fun _ _ => .bind fun _ _ => .bind fun _ _ =>
        .branch (fun _ => .error _) (fun _ => .branch (fun _ => ?_) (fun _ => .ok ?_))
      · exact acrossFields_hasShape rfl field _ _
      · exact .plain rfl (by decide) _
  | pattern field text options =>
      rw [compileIn]
      exact .bind fun _ _ => .ok (.pattern field text options)
  | geo op field geometry minDistance maxDistance =>
      rw [compileIn]
      unfold spatialCondition
      refine .bind fun _ _ => .bind fun _ _ => .branch (fun _ => ?_) (fun _ => ?_)
      · refine .branch (fun _ => .bind fun _ _ => ?_) (fun _ => ?_)
        · exact acrossFields_hasShape rfl field _ _
        · exact acrossFields_hasShape rfl field _ _
      · exact .bind fun shape _ => .ok (.spatial op field geometry minDistance maxDistance shape)
  | containsAll field values =>
      rw [compileIn]
      refine .bind fun _ _ => .branch (fun _ => ?_) (fun _ => .bind fun list _ => .ok ?_)
      · exact acrossFields_hasShape rfl field _ _
      · exact .plain rfl (by decide) list
  | elementMatches field subqueries =>
      rw [compileIn]
      exact .bind fun _ _ => .bind fun fragments compiled => .ok (.elementMatches field compiled)
  | sizeIs field size =>
      unfold compileIn
      refine .bind fun _ _ => .branch (fun _ => ?_) (fun _ => ?_)
      · exact acrossFields_hasShape rfl field _ _
      · cases size with
        | number n =>
            exact .branch (fun _ => .ok (.plain rfl (by decide) _)) fun _ => .error _
        | _ => exact .error _
  | logical op children =>
      rw [compileIn]
      exact .bind fun wires compiled => .ok (.logical op compiled)

/-- A compiled expression can be merged, unless its field takes the conjunction's place. -/
theorem HasShape.isFragment {scope : Scope} {expression : Expression} {wire : Json}
    (shape : HasShape scope expression wire) (named : expression.field? ≠ some conjunctionKey) :
    IsFragment wire := by
  have dataMarked : ∀ operator ∈ dataOperators,
      startsWithDollar operator = true ∧ operator ≠ conjunctionKey := by decide
  cases shape with
  | across simple condition =>
      exact single_isFragment (isMergeable_operator (by decide) (by decide) condition)
  | plain simple isData operand =>
      obtain ⟨marked, notConjunction⟩ := dataMarked _ isData
      exact underField_single_isFragment named marked notConjunction operand
  | spatial op field geometry minDistance maxDistance shape =>
      have mergeable := spatial_isMergeable op shape minDistance maxDistance
      exact (IsOperatorMap.single mergeable).underField named
  | pattern field text options => exact (pattern_isOperatorMap text options).underField named
  | elementMatches field compiled =>
      exact underField_single_isFragment named (by decide) (by decide) _
  | logical op compiled => exact single_isFragment (connective_isMergeable op _)

theorem compileEach_eq_ok_iff {scope : Scope} {expressions : List Expression}
    {compiled : List Json} :
    compileEach scope expressions = .ok compiled ↔
      List.Forall₂ (fun expression wire => compileIn scope expression = .ok wire)
        expressions compiled := by
  induction expressions generalizing compiled with
  | nil =>
      rw [compileEach, List.forall₂_nil_left_iff]
      exact ⟨fun same => by cases same; rfl, fun same => by rw [same]⟩
  | cons expression rest ih =>
      rw [compileEach, List.forall₂_cons_left_iff, bind_eq_ok_iff]
      constructor
      · rintro ⟨first, compiledFirst, later⟩
        obtain ⟨others, compiledOthers, same⟩ := bind_eq_ok_iff.mp later
        cases same
        exact ⟨first, others, compiledFirst, ih.mp compiledOthers, rfl⟩
      · rintro ⟨first, others, compiledFirst, compiledOthers, rfl⟩
        exact ⟨first, compiledFirst, bind_eq_ok_iff.mpr ⟨others, ih.mpr compiledOthers, rfl⟩⟩

/-- The body of an element match has the conditions of its subqueries, each as often as they have
    it together. Field names that begin with the mark of operators are no business of a query; of
    these only the conjunction's own name would do harm. -/
theorem elementMatches_conditions {scope : Scope} {field : Option String}
    {subqueries : List Expression} {fragments : List Json}
    (placed : scope = .document → field.isSome)
    (named : ∀ subquery ∈ subqueries, subquery.field? ≠ some conjunctionKey)
    (compiled : List.Forall₂ (fun subquery fragment => compileIn .element subquery = .ok fragment)
      subqueries fragments) :
    ∃ body,
      compileIn scope (.elementMatches field subqueries) =
        .ok (underField field (.single "$elemMatch" (.object body))) ∧
      conditions (.object body) = (fragments.map conditions).sum := by
  have areFragments : ∀ fragment ∈ fragments, IsFragment fragment := by
    clear placed
    induction compiled with
    | nil => exact fun _ mem => nomatch mem
    | @cons subquery fragment _ _ compiledFirst _ ih =>
        intro other mem
        rcases List.mem_cons.mp mem with rfl | mem
        · exact (compileIn_hasShape .element subquery _ compiledFirst).isFragment
            (named subquery (by simp))
        · exact ih (fun later member => named later (List.mem_cons_of_mem _ member)) other mem
  have demanded : demandField field scope "$elemMatch" = .ok () := by
    cases field with
    | some name => rfl
    | none =>
        cases scope with
        | element => rfl
        | document => cases placed rfl
  refine ⟨fragments.foldl merge [], ?_, ?_⟩
  · rw [compileIn, demanded, compileEach_eq_ok_iff.mpr compiled]
    rfl
  · have noSlot : HasConjunctList [] := fun value found => by cases found
    rw [conditions, foldl_merge_conditions noSlot areFragments, memberConditions, zero_add]

/-- Subqueries of which two test one field in the same way, beside a conjunction of the caller's
    own. -/
private def collidingSubqueries : List Expression :=
  [.compare .eq (some "price") (.bool true), .compare .eq (some "price") (.bool false),
    .logical .and [.compare .gt none .null, .presence (some "price") true]]

theorem elementMatches_conditions_colliding :
    (Scope.document = .document → (some "items").isSome = true) ∧
      (∀ subquery ∈ collidingSubqueries, subquery.field? ≠ some conjunctionKey) ∧
      (∃ fragments, List.Forall₂
        (fun subquery fragment => compileIn .element subquery = .ok fragment)
        collidingSubqueries fragments) ∧
      ∃ body,
        compileIn .document (.elementMatches (some "items") collidingSubqueries) =
          .ok (.single "items" (.single "$elemMatch" (.object body))) ∧
        conditions (.object body) =
          {.operator "price" "$eq" (.bool true), .operator "price" "$eq" (.bool false),
            .whole "$gt" .null, .operator "price" "$exists" (.bool true)} := by
  have placed : Scope.document = .document → (some "items").isSome := fun _ => rfl
  have named : ∀ subquery ∈ collidingSubqueries, subquery.field? ≠ some conjunctionKey := by
    decide
  have compiled : List.Forall₂ (fun subquery fragment => compileIn .element subquery = .ok fragment)
      collidingSubqueries _ := .cons rfl (.cons rfl (.cons rfl .nil))
  obtain ⟨body, compiledBody, same⟩ := elementMatches_conditions placed named compiled
  exact ⟨placed, named, ⟨_, compiled⟩, body, compiledBody, same.trans (by decide)⟩

end Query

end DocStore
