import DocStore.Proofs.Query.WellFormed
import DocStore.Proofs.Query.WirePattern

/-! # Patterns and their options

A pattern on a field keeps its options. Patterns on an array element are merged into one body, and
there at most the first has options. So an expression keeps the options of its patterns when no
element match has a later pattern with options, and only then if all patterns have other texts.
-/

namespace DocStore

namespace Expression

open Query

/-- The pattern of a node that tests an element against it. -/
def elementPattern? : Expression → Option WirePattern
  | .pattern none text options => some ⟨.string text, options.map .string⟩
  | _ => none

/-- The patterns on the element among the subqueries of an element match. -/
def elementPatterns (subqueries : List Expression) : List WirePattern :=
  subqueries.filterMap elementPattern?

mutual

/-- The patterns of an expression with the options that they were given. -/
def patterns : Expression → Multiset WirePattern
  | .pattern _ text options => {⟨.string text, options.map .string⟩}
  | .elementMatches _ subqueries => patternsOfEach subqueries
  | .logical _ children => patternsOfEach children
  | _ => 0
termination_by structural expression => expression

def patternsOfEach : List Expression → Multiset WirePattern
  | [] => 0
  | expression :: rest => patterns expression + patternsOfEach rest
termination_by structural expressions => expressions

end

mutual

/-- The patterns of an expression with the options that they have on the wire. -/
def sentPatterns : Expression → Multiset WirePattern
  | .pattern _ text options => {⟨.string text, options.map .string⟩}
  | .elementMatches _ subqueries =>
      ↑(mergedPatterns (elementPatterns subqueries)) + sentBeside subqueries
  | .logical _ children => sentOfEach children
  | _ => 0
termination_by structural expression => expression

def sentOfEach : List Expression → Multiset WirePattern
  | [] => 0
  | expression :: rest => sentPatterns expression + sentOfEach rest
termination_by structural expressions => expressions

/-- The patterns of the subqueries that are no patterns on the element themselves. -/
def sentBeside : List Expression → Multiset WirePattern
  | [] => 0
  | expression :: rest =>
      (if (elementPattern? expression).isSome then 0 else sentPatterns expression) +
        sentBeside rest
termination_by structural expressions => expressions

end

theorem exists_of_elementPattern? {expression : Expression} {found : WirePattern}
    (isPattern : expression.elementPattern? = some found) :
    ∃ text options, expression = .pattern none text options ∧
      found = ⟨.string text, options.map .string⟩ := by
  unfold elementPattern? at isPattern
  split at isPattern
  next text options => exact ⟨text, options, rfl, (Option.some.inj isPattern).symm⟩
  next => cases isPattern

/-- Whether a node's field is not named like an operator. -/
def IsPlainlyNamed (node : Expression) : Prop :=
  ∀ name ∈ node.field?, startsWithDollar name = false

instance : DecidablePred IsPlainlyNamed := fun node =>
  inferInstanceAs (Decidable (∀ name ∈ node.field?, startsWithDollar name = false))

/-- Whether the patterns on the element that a node merges into others have no options. -/
def MergesNoOptions : Expression → Prop
  | .elementMatches _ subqueries =>
      ∀ later ∈ (elementPatterns subqueries).tail, later.options = none
  | _ => True

end Expression

namespace Query

open Members Expression

/-! ## Compiling -/

/-- An expression compiles to a pattern on the element, or to one member with its patterns. -/
def Sends (expression : Expression) (wire : Json) : Prop :=
  match expression.elementPattern? with
  | some found => wire = found.wire
  | none => ∃ key value, wire = .single key value ∧ IsOrdinary key value ∧
      patternsUnder key value = expression.sentPatterns

theorem simple_sends {scope : Scope} {node : Expression} {wire : Json}
    (shape : HasShape scope node wire) (simple : node.isSimple = true)
    (named : node.IsPlainlyNamed) : Sends node wire := by
  have noPattern : node.elementPattern? = none := by cases node <;> first | rfl | cases simple
  have noneSent : node.sentPatterns = 0 := by cases node <;> first | rfl | cases simple
  have dataLeaves : ∀ operator ∈ dataOperators, IsLeafOperator operator := by decide
  rw [Sends, noPattern, noneSent]
  cases shape with
  | across _ condition =>
      have leaf : IsLeafOperator "$expr" := by decide
      exact ⟨_, _, rfl, leaf.isOrdinary condition, leaf.patternsUnder condition⟩
  | plain _ isData operand =>
      have leaf := dataLeaves _ isData
      rw [← leaf.patternsUnder operand]
      exact exists_member_underField named (leaf.isOrdinary operand)
  | spatial op field geometry minDistance maxDistance shape =>
      obtain ⟨ordinary, none⟩ := spatial_isOrdinary op shape minDistance maxDistance
      rw [← none]
      exact exists_member_underField named ordinary
  | pattern | elementMatches | logical => cases simple

theorem pattern_sends {field : Option String}
    (named : ∀ name ∈ field, startsWithDollar name = false) (text : String)
    (options : Option String) :
    Sends (.pattern field text options) (underField field (.object (("$regex", .string text) ::
      (options.map fun given => ("$options", Json.string given)).toList))) := by
  cases field with
  | none => cases options <;> rfl
  | some name =>
      have plain := named name rfl
      have complete : IsComplete (("$regex", .string text) ::
          (options.map fun given => ("$options", Json.string given)).toList) := by
        intro absent
        rw [find?_cons_self] at absent
        cases absent
      refine ⟨name, _, rfl,
        field_isOrdinary plain (pattern_isOperatorMap text options).distinct complete, ?_⟩
      rw [patternsUnder_field plain]
      cases options <;> rfl

theorem Sends.patternsOf {expression : Expression} {wire : Json} (sends : Sends expression wire) :
    patternsOf wire = expression.sentPatterns := by
  cases isPattern : expression.elementPattern? with
  | some found =>
      rw [Sends, isPattern] at sends
      obtain ⟨text, options, rfl, rfl⟩ := exists_of_elementPattern? isPattern
      rw [sends, patternsOf_wire, sentPatterns]
  | none =>
      rw [Sends, isPattern] at sends
      obtain ⟨key, value, rfl, ordinary, sent⟩ := sends
      rw [patternsOf_single ordinary.apart, sent]

theorem itemPatterns_of_sends {expressions : List Expression} {wires : List Json}
    (sends : List.Forall₂ Sends expressions wires) :
    itemPatterns wires = sentOfEach expressions := by
  induction sends with
  | nil => rfl
  | cons first _ ih => rw [itemPatterns, first.patternsOf, ih, sentOfEach]

/-- Merging what subqueries compile to. -/
theorem Holds.foldl_merge {expressions : List Expression} {wires : List Json}
    (sends : List.Forall₂ Sends expressions wires) {body : Members} {merged : List WirePattern}
    {beside : Multiset WirePattern} (holds : Holds body merged beside) :
    Holds (wires.foldl merge body) (merged ++ elementPatterns expressions)
      (beside + sentBeside expressions) := by
  induction sends generalizing body merged beside with
  | nil => simpa [elementPatterns, sentBeside] using holds
  | @cons expression wire rest _ first _ ih =>
      rw [List.foldl_cons, sentBeside, elementPatterns]
      cases isPattern : expression.elementPattern? with
      | some found =>
          rw [Sends, isPattern] at first
          subst first
          rw [List.filterMap_cons_some isPattern, List.append_cons, Option.isSome_some, if_pos rfl,
            zero_add]
          exact ih (holds.mergePattern found)
      | none =>
          rw [Sends, isPattern] at first
          obtain ⟨key, value, rfl, ordinary, sent⟩ := first
          rw [List.filterMap_cons_none isPattern, if_neg nofun, ← sent, ← add_assoc]
          exact ih (holds.mergeMember ordinary)

theorem patternsOf_foldl_merge {subqueries : List Expression} {fragments : List Json}
    (sends : List.Forall₂ Sends subqueries fragments) (field : Option String) :
    patternsOf (.object (fragments.foldl merge [])) =
      (Expression.elementMatches field subqueries).sentPatterns := by
  have holds := Holds.empty.foldl_merge sends
  rw [zero_add] at holds
  exact holds.patternsOf

mutual

/-- A compiled expression sends its patterns. -/
theorem compileIn_sends (scope : Scope) : ∀ expression : Expression,
    (∀ node ∈ expression.nodes scope, node.2.IsPlainlyNamed) →
      Ensures (compileIn scope expression) (Sends expression)
  | .pattern field text options, plain, wire, compiled => by
      have named := plain _ (mem_nodes_self scope _)
      cases compileIn_hasShape _ _ wire compiled with
      | across simple | plain simple => cases simple
      | pattern => exact pattern_sends named text options
  | .elementMatches field subqueries, plain, wire, compiled => by
      have named := plain _ (mem_nodes_self scope _)
      cases compileIn_hasShape _ _ wire compiled with
      | across simple | plain simple => cases simple
      | @elementMatches _ _ fragments compiledEach =>
          have sends := compileEach_sends .element subqueries
            (fun node mem => plain node (List.mem_cons_of_mem _ mem)) fragments compiledEach
          have isBody : IsOrdinary "$elemMatch" (.object (fragments.foldl merge [])) :=
            marked_isOrdinary (by decide) (by decide) (by decide) _
          obtain ⟨key, value, same, ordinary, under⟩ := exists_member_underField named isBody
          exact ⟨key, value, same, ordinary, under.trans (patternsOf_foldl_merge sends field)⟩
  | .logical op children, plain, wire, compiled => by
      cases compileIn_hasShape _ _ wire compiled with
      | across simple | plain simple => cases simple
      | @logical _ _ wires compiledEach =>
          have sends := compileEach_sends scope children
            (fun node mem => plain node (List.mem_cons_of_mem _ mem)) wires compiledEach
          refine ⟨_, _, rfl, connective_isOrdinary op wires, ?_⟩
          rw [patternsUnder_connective, itemPatterns_of_sends sends, sentPatterns]
  | .compare .., plain, wire, compiled | .membership .., plain, wire, compiled
  | .presence .., plain, wire, compiled | .typeIs .., plain, wire, compiled
  | .modulo .., plain, wire, compiled | .geo .., plain, wire, compiled
  | .containsAll .., plain, wire, compiled | .sizeIs .., plain, wire, compiled =>
      simple_sends (compileIn_hasShape scope _ wire compiled) rfl (plain _ (mem_nodes_self scope _))

theorem compileEach_sends (scope : Scope) : ∀ expressions : List Expression,
    (∀ node ∈ nodesOfEach scope expressions, node.2.IsPlainlyNamed) →
      Ensures (compileEach scope expressions) (List.Forall₂ Sends expressions)
  | [], _ => by
      rw [compileEach]
      exact .ok .nil
  | expression :: rest, plain => by
      rw [nodesOfEach, List.forall_mem_append] at plain
      rw [compileEach]
      refine .bind fun first compiledFirst => .bind fun others compiledOthers => .ok ?_
      exact .cons (compileIn_sends scope expression plain.1 first compiledFirst)
        (compileEach_sends scope rest plain.2 others compiledOthers)

end

end Query

/-! ## Patterns that keep their options -/

namespace Expression

open Query

theorem mergedPatterns_of_tail {merged : List WirePattern}
    (bare : ∀ later ∈ merged.tail, later.options = none) : mergedPatterns merged = merged := by
  cases merged with
  | nil => rfl
  | cons first later =>
      obtain ⟨text, options⟩ := first
      have nothingLater : later.findSome? WirePattern.options = none :=
        List.findSome?_eq_none_iff.mpr bare
      have same : ∀ pattern ∈ later, pattern.bare = pattern := fun pattern mem => by
        rw [WirePattern.bare, ← bare pattern mem]
      rw [mergedPatterns, List.findSome?_cons, nothingLater, List.map_congr_left same, List.map_id']
      cases options <;> rfl

theorem patterns_of_elementPattern? {expression : Expression} {found : WirePattern}
    (isPattern : expression.elementPattern? = some found) : expression.patterns = {found} := by
  obtain ⟨text, options, rfl, rfl⟩ := exists_of_elementPattern? isPattern
  rfl

theorem mem_patternsOfEach {expressions : List Expression} {found : WirePattern}
    (mem : found ∈ elementPatterns expressions) : found ∈ patternsOfEach expressions := by
  induction expressions with
  | nil => cases mem
  | cons expression rest ih =>
      rw [patternsOfEach, Multiset.mem_add]
      obtain ⟨source, among, isPattern⟩ := List.mem_filterMap.mp mem
      obtain rfl | among := List.mem_cons.mp among
      · rw [patterns_of_elementPattern? isPattern]
        exact .inl (Multiset.mem_singleton_self found)
      · exact .inr (ih (List.mem_filterMap.mpr ⟨source, among, isPattern⟩))

theorem elementPatterns_add_sentBeside {expressions : List Expression}
    (same : ∀ expression ∈ expressions, expression.sentPatterns = expression.patterns) :
    ↑(elementPatterns expressions) + sentBeside expressions = patternsOfEach expressions := by
  induction expressions with
  | nil => rfl
  | cons expression rest ih =>
      obtain ⟨sameFirst, sameRest⟩ := List.forall_mem_cons.mp same
      rw [patternsOfEach, ← ih sameRest, sentBeside, elementPatterns]
      cases isPattern : expression.elementPattern? with
      | some found =>
          rw [List.filterMap_cons_some isPattern, patterns_of_elementPattern? isPattern,
            Option.isSome_some, if_pos rfl, zero_add, ← Multiset.cons_coe,
            ← Multiset.singleton_add, add_assoc, elementPatterns]
      | none =>
          rw [List.filterMap_cons_none isPattern, if_neg nofun, sameFirst, elementPatterns]
          abel

theorem sentOfEach_eq {expressions : List Expression}
    (same : ∀ expression ∈ expressions, expression.sentPatterns = expression.patterns) :
    sentOfEach expressions = patternsOfEach expressions := by
  induction expressions with
  | nil => rfl
  | cons expression rest ih =>
      obtain ⟨sameFirst, sameRest⟩ := List.forall_mem_cons.mp same
      rw [sentOfEach, patternsOfEach, sameFirst, ih sameRest]

mutual

theorem sentPatterns_eq (scope : Scope) : ∀ expression : Expression,
    (∀ node ∈ expression.nodes scope, node.2.MergesNoOptions) →
      expression.sentPatterns = expression.patterns
  | .elementMatches field subqueries, keeps => by
      obtain ⟨keepsHere, keepsBelow⟩ := List.forall_mem_cons.mp keeps
      have same := sentPatterns_eq_of_mem .element subqueries keepsBelow
      rw [sentPatterns, patterns, mergedPatterns_of_tail keepsHere,
        elementPatterns_add_sentBeside same]
  | .logical op children, keeps => by
      have same := sentPatterns_eq_of_mem scope children (List.forall_mem_cons.mp keeps).2
      rw [sentPatterns, patterns, sentOfEach_eq same]
  | .compare .., _ | .membership .., _ | .presence .., _ | .typeIs .., _ | .modulo .., _
  | .pattern .., _ | .geo .., _ | .containsAll .., _ | .sizeIs .., _ => rfl

theorem sentPatterns_eq_of_mem (scope : Scope) : ∀ expressions : List Expression,
    (∀ node ∈ nodesOfEach scope expressions, node.2.MergesNoOptions) →
      ∀ expression ∈ expressions, expression.sentPatterns = expression.patterns
  | [], _ => nofun
  | expression :: rest, keeps => by
      rw [nodesOfEach, List.forall_mem_append] at keeps
      exact List.forall_mem_cons.mpr ⟨sentPatterns_eq scope expression keeps.1,
        sentPatterns_eq_of_mem scope rest keeps.2⟩

end

/-- Below a pattern there is nothing else. -/
theorem elementPattern?_of_mem_nodes {scope : Scope} {expression : Expression}
    {node : Scope × Expression} (mem : node ∈ expression.nodes scope)
    (apart : node.2.elementPattern? = none) : expression.elementPattern? = none := by
  cases expression with
  | pattern field text options =>
      obtain rfl := List.mem_singleton.mp mem
      exact apart
  | _ => rfl

mutual

/-- What a node holds, the expression around it holds too, unless the node is a pattern that is
    merged with others. -/
theorem patterns_le_of_mem_nodes (scope : Scope) : ∀ expression : Expression,
    ∀ node ∈ expression.nodes scope, node.2.elementPattern? = none →
      node.2.patterns ≤ expression.patterns ∧ node.2.sentPatterns ≤ expression.sentPatterns
  | .elementMatches field subqueries, node, mem, apart => by
      obtain rfl | below := List.mem_cons.mp mem
      · exact ⟨le_rfl, le_rfl⟩
      · obtain ⟨given, -, sent⟩ :=
          patterns_le_of_mem_nodesOfEach .element subqueries node below apart
        exact ⟨given, sent.trans (Multiset.le_add_left _ _)⟩
  | .logical op children, node, mem, apart => by
      obtain rfl | below := List.mem_cons.mp mem
      · exact ⟨le_rfl, le_rfl⟩
      · obtain ⟨given, sent, -⟩ :=
          patterns_le_of_mem_nodesOfEach scope children node below apart
        exact ⟨given, sent⟩
  | .compare .., _, mem, _ | .membership .., _, mem, _ | .presence .., _, mem, _
  | .typeIs .., _, mem, _ | .modulo .., _, mem, _ | .pattern .., _, mem, _ | .geo .., _, mem, _
  | .containsAll .., _, mem, _ | .sizeIs .., _, mem, _ => by
      obtain rfl := List.mem_singleton.mp mem
      exact ⟨le_rfl, le_rfl⟩

theorem patterns_le_of_mem_nodesOfEach (scope : Scope) : ∀ expressions : List Expression,
    ∀ node ∈ nodesOfEach scope expressions, node.2.elementPattern? = none →
      node.2.patterns ≤ patternsOfEach expressions ∧
        node.2.sentPatterns ≤ sentOfEach expressions ∧
        node.2.sentPatterns ≤ sentBeside expressions
  | [], _, mem, _ => nomatch mem
  | expression :: rest, node, mem, apart => by
      rw [patternsOfEach, sentOfEach, sentBeside]
      obtain here | later := List.mem_append.mp mem
      · obtain ⟨given, sent⟩ := patterns_le_of_mem_nodes scope expression node here apart
        rw [elementPattern?_of_mem_nodes here apart, if_neg nofun]
        exact ⟨given.trans (Multiset.le_add_right _ _), sent.trans (Multiset.le_add_right _ _),
          sent.trans (Multiset.le_add_right _ _)⟩
      · obtain ⟨given, sent, beside⟩ :=
          patterns_le_of_mem_nodesOfEach scope rest node later apart
        exact ⟨given.trans (Multiset.le_add_left _ _), sent.trans (Multiset.le_add_left _ _),
          beside.trans (Multiset.le_add_left _ _)⟩

end

theorem mergesNoOptions_of_sent_eq {scope : Scope} {expression : Expression}
    (distinct : (expression.patterns.map WirePattern.text).Nodup)
    (same : expression.sentPatterns = expression.patterns) :
    ∀ node ∈ expression.nodes scope, node.2.MergesNoOptions := by
  rintro ⟨inner, node⟩ mem
  cases node with
  | elementMatches field subqueries =>
      intro later among
      -- It is sent without options, so that one without options was given, which is the same one.
      obtain ⟨given, sent⟩ := patterns_le_of_mem_nodes scope expression _ mem rfl
      have isGiven : later ∈ expression.patterns :=
        Multiset.mem_of_le given (mem_patternsOfEach (List.mem_of_mem_tail among))
      have isSent : later.bare ∈ expression.sentPatterns := by
        refine Multiset.mem_of_le sent (Multiset.mem_add.mpr (.inl ?_))
        cases merged : elementPatterns subqueries with
        | nil => simp [merged] at among
        | cons first rest =>
            rw [merged] at among
            exact Multiset.mem_coe.mpr (List.mem_cons_of_mem _ (List.mem_map_of_mem among))
      have equal : later = later.bare :=
        Multiset.inj_on_of_nodup_map distinct later isGiven later.bare (same ▸ isSent) rfl
      rw [equal]
      rfl
  | _ => trivial

end Expression

namespace Query

open Expression

/-- The body of an element match has a text for each pattern. Of the patterns on the element itself
    the first has the first options that any of them was given, and the others have none. So
    patterns keep their options where no later pattern on an element has options, and only there if
    all texts are different. -/
theorem elementMatches_patterns {scope : Scope} {field : Option String}
    {subqueries : List Expression} {wire : Json}
    (named : ∀ node ∈ nodesOfEach .element subqueries, node.2.IsPlainlyNamed)
    (compiled : compileIn scope (.elementMatches field subqueries) = .ok wire) :
    ∃ body, wire = underField field (.single "$elemMatch" (.object body)) ∧
      patternsOf (.object body) =
        ↑(mergedPatterns (elementPatterns subqueries)) + sentBeside subqueries ∧
      ((∀ node ∈ (Expression.elementMatches field subqueries).nodes scope,
          node.2.MergesNoOptions) →
        patternsOf (.object body) = patternsOfEach subqueries) ∧
      (((patternsOfEach subqueries).map WirePattern.text).Nodup →
        patternsOf (.object body) = patternsOfEach subqueries →
        ∀ node ∈ (Expression.elementMatches field subqueries).nodes scope,
          node.2.MergesNoOptions) := by
  rw [compileIn] at compiled
  obtain ⟨-, -, compiled⟩ := bind_eq_ok_iff.mp compiled
  obtain ⟨fragments, compiledEach, rfl⟩ := bind_pure_eq_ok_iff.mp compiled
  have sends := compileEach_sends .element subqueries named fragments compiledEach
  have held := patternsOf_foldl_merge sends field
  refine ⟨_, rfl, held, fun keeps => ?_, fun distinct same => ?_⟩
  · rw [held, sentPatterns_eq scope _ keeps, patterns]
  · exact mergesNoOptions_of_sent_eq distinct (held.symm.trans same)

/-- Patterns on an element of which only the first has options, beside one on a field. -/
private def optionsFirst : List Expression :=
  [.pattern none "a" (some "i"), .pattern (some "name") "b" (some "m"), .pattern none "c" none]

theorem elementMatches_patterns_optionsFirst :
    (∀ node ∈ nodesOfEach .element optionsFirst, node.2.IsPlainlyNamed) ∧
      ∃ body,
        compileIn .document (.elementMatches (some "tags") optionsFirst) =
          .ok (.single "tags" (.single "$elemMatch" (.object body))) ∧
        patternsOf (.object body) =
          {⟨.string "a", some (.string "i")⟩, ⟨.string "b", some (.string "m")⟩,
            ⟨.string "c", none⟩} := by
  have named : ∀ node ∈ nodesOfEach .element optionsFirst, node.2.IsPlainlyNamed := by decide
  have compiled : compileIn .document (.elementMatches (some "tags") optionsFirst) = .ok _ := rfl
  obtain ⟨body, same, -, keeps, -⟩ := elementMatches_patterns named compiled
  have keptAll : ∀ node ∈ (Expression.elementMatches (some "tags") optionsFirst).nodes .document,
      node.2.MergesNoOptions := by
    simp [nodes, nodesOfEach, optionsFirst, MergesNoOptions, elementPatterns, elementPattern?]
  exact ⟨named, body, compiled.trans (congrArg _ same), (keeps keptAll).trans rfl⟩

/-- The options of a later pattern on an element go to the first one, which was given none. -/
theorem options_of_later_pattern :
    let subqueries := [Expression.pattern none "a" none, .pattern none "b" (some "i")]
    let body : Members := [("$regex", .string "a"),
      ("$and", .array [.single "$regex" (.string "b")]), ("$options", .string "i")]
    compileIn .document (.elementMatches (some "tags") subqueries) =
        .ok (.single "tags" (.single "$elemMatch" (.object body))) ∧
      patternsOfEach subqueries = {⟨.string "a", none⟩, ⟨.string "b", some (.string "i")⟩} ∧
      patternsOf (.object body) = {⟨.string "a", some (.string "i")⟩, ⟨.string "b", none⟩} ∧
      patternsOf (.object body) ≠ patternsOfEach subqueries := by
  refine ⟨rfl, rfl, rfl, ?_⟩
  decide

end Query

end DocStore
