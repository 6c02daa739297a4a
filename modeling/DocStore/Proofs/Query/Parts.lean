import DocStore.Configuration
import DocStore.Proofs.Json.Distinct
import DocStore.Proofs.Query.ElementMatch
import DocStore.Proofs.Query.WireForm
import DocStore.Proofs.Request

/-! # The parts of a query

A query is built in steps, and compiled into parts. A listener sends some of these as its
configuration and a one-shot request all of them in its URL, so that both say the same of the
steps.
-/

namespace DocStore

namespace Query

variable {query : Query} {compiled : QueryParts} {error : Error}

/-- What says that all of some conditions hold. -/
def conjunction : List Json → Option Json
  | [] => none
  | [only] => some only
  | many => some (.single "$and" (.array many))

def order (query : Query) : Option Json :=
  if query.sorts.isEmpty then none else some (sortWire query.sorts)

/-- The condition that a query makes, if any. -/
def condition (filters : List Expression) : Except Error (Option Json) :=
  if filters.isEmpty then .ok none else (compile filters).map some

theorem parts_eq (query : Query) :
    query.parts = do
      let filter ← condition query.filters
      return ⟨filter, query.projection.map Projection.wire, query.order, query.limit⟩ := by
  unfold parts condition
  cases query.filters.isEmpty <;> rfl

theorem condition_eq_ok_iff {filters : List Expression} {filter : Option Json} :
    condition filters = .ok filter ↔
      ∃ wires, compileEach .document filters = .ok wires ∧ filter = conjunction wires := by
  unfold condition
  match filters with
  | [] => simp [compileEach, conjunction, eq_comm]
  | [only] =>
      simp only [List.isEmpty_cons, Bool.false_eq_true, if_false, compile, map_eq_ok_iff,
        compileEach_cons_eq_ok_iff]
      constructor
      · rintro ⟨wire, compiles, rfl⟩
        exact ⟨[wire], ⟨wire, [], compiles, rfl, rfl⟩, rfl⟩
      · rintro ⟨_, ⟨wire, others, compiles, none, rfl⟩, rfl⟩
        cases none
        exact ⟨wire, compiles, rfl⟩
  | first :: second :: rest =>
      simp only [List.isEmpty_cons, Bool.false_eq_true, if_false, compile, map_eq_ok_iff,
        compileIn_logical_eq_ok_iff]
      constructor
      · rintro ⟨_, ⟨wires, compiles, rfl⟩, rfl⟩
        refine ⟨wires, compiles, ?_⟩
        simp only [compileEach_cons_eq_ok_iff] at compiles
        obtain ⟨_, _, -, ⟨_, _, -, -, rfl⟩, rfl⟩ := compiles
        rfl
      · rintro ⟨wires, compiles, rfl⟩
        refine ⟨_, ⟨wires, compiles, rfl⟩, ?_⟩
        simp only [compileEach_cons_eq_ok_iff] at compiles
        obtain ⟨_, _, -, ⟨_, _, -, -, rfl⟩, rfl⟩ := compiles
        rfl

theorem parts_eq_ok_iff :
    query.parts = .ok compiled ↔
      ∃ wires, compileEach .document query.filters = .ok wires ∧
        compiled = ⟨conjunction wires, query.projection.map Projection.wire, query.order,
          query.limit⟩ := by
  rw [parts_eq, bind_pure_eq_ok_iff]
  constructor
  · rintro ⟨filter, filters, rfl⟩
    obtain ⟨wires, compiles, rfl⟩ := condition_eq_ok_iff.mp filters
    exact ⟨wires, compiles, rfl⟩
  · rintro ⟨wires, compiles, rfl⟩
    exact ⟨_, condition_eq_ok_iff.mpr ⟨wires, compiles, rfl⟩, rfl⟩

/-- Only a condition can fail to compile. -/
theorem exists_parts_of_unfiltered (unfiltered : query.filters = []) :
    ∃ compiled, query.parts = .ok compiled := by
  refine ⟨_, parts_eq_ok_iff.mpr ⟨[], ?_, rfl⟩⟩
  rw [unfiltered]
  rfl

/-! ## Configurations -/

theorem isShaping_iff :
    query.isShaping = true ↔
      query.filters ≠ [] ∨ query.sorts ≠ [] ∨ query.projection ≠ none := by
  simp [isShaping, or_assoc, ← Option.isSome_iff_ne_none]

theorem configuration_of_not_shaping (quiet : query.isShaping = false) :
    Configuration.ofQuery query = .ok none := by
  rw [Configuration.ofQuery, quiet]
  rfl

theorem configuration_of_shaping (shaping : query.isShaping = true) :
    Configuration.ofQuery query = do
      let compiled ← query.parts
      return some ⟨compiled.query, compiled.projection, compiled.sort⟩ := by
  rw [Configuration.ofQuery, shaping]
  rfl

theorem configuration_eq_none_iff :
    Configuration.ofQuery query = .ok none ↔ query.isShaping = false := by
  cases shaping : query.isShaping with
  | true =>
      rw [configuration_of_shaping shaping, bind_pure_eq_ok_iff]
      exact iff_of_false nofun nofun
  | false => exact iff_of_true (configuration_of_not_shaping shaping) rfl

theorem configuration_eq_error_iff :
    Configuration.ofQuery query = .error error ↔ query.parts = .error error := by
  cases shaping : query.isShaping with
  | true =>
      rw [configuration_of_shaping shaping, bind_eq_error_iff]
      exact or_iff_left nofun
  | false =>
      have unfiltered : query.filters = [] := by
        by_contra filtered
        rw [isShaping_iff.mpr (.inl filtered)] at shaping
        cases shaping
      obtain ⟨compiled, compiles⟩ := exists_parts_of_unfiltered unfiltered
      rw [configuration_of_not_shaping shaping, compiles]
      exact iff_of_false nofun nofun

theorem configuration_eq_some_iff {configuration : Configuration} :
    Configuration.ofQuery query = .ok (some configuration) ↔
      query.isShaping = true ∧ ∃ compiled, query.parts = .ok compiled ∧
        configuration = ⟨compiled.query, compiled.projection, compiled.sort⟩ := by
  cases shaping : query.isShaping with
  | true =>
      rw [configuration_of_shaping shaping, bind_pure_eq_ok_iff]
      simp
  | false =>
      rw [configuration_of_not_shaping shaping]
      exact iff_of_false nofun nofun

end Query

/-! ## Steps -/

inductive QueryStep where
  | find (filter : Expression)
  | sort (field : String) (direction : SortDirection)
  | project (projection : Projection)
  | limit (count : UInt64)

namespace QueryStep

def filter? : QueryStep → Option Expression
  | .find filter => some filter
  | .sort _ _ | .project _ | .limit _ => none

def sort? : QueryStep → Option (String × SortDirection)
  | .sort field direction => some (field, direction)
  | .find _ | .project _ | .limit _ => none

def projection? : QueryStep → Option Projection
  | .project projection => some projection
  | .find _ | .sort _ _ | .limit _ => none

def limit? : QueryStep → Option UInt64
  | .limit count => some count
  | .find _ | .sort _ _ | .project _ => none

/-- Whether a step is of use to one-shot requests only. -/
def isLimit : QueryStep → Bool
  | .limit _ => true
  | .find _ | .sort _ _ | .project _ => false

theorem isLimit_iff {step : QueryStep} :
    step.isLimit = true ↔ step.filter? = none ∧ step.sort? = none ∧ step.projection? = none := by
  cases step <;> simp [isLimit, filter?, sort?, projection?]

def apply (query : Query) : QueryStep → Query
  | .find filter => query.find filter
  | .sort field direction => query.sort field direction
  | .project projection => query.project projection
  | .limit count => query.limitTo count

end QueryStep

namespace Query

def ofSteps (steps : List QueryStep) : Query :=
  steps.foldl QueryStep.apply everything

/-- Filters and orders are collected, while the last projection and the last limit count. -/
theorem ofSteps_eq (steps : List QueryStep) :
    ofSteps steps =
      ⟨steps.filterMap QueryStep.filter?, steps.filterMap QueryStep.sort?,
        (steps.filterMap QueryStep.projection?).getLast?,
        (steps.filterMap QueryStep.limit?).getLast?⟩ := by
  induction steps using List.reverseRecOn with
  | nil => rfl
  | append_singleton steps step ih =>
      have applied : ofSteps (steps ++ [step]) = QueryStep.apply (ofSteps steps) step := by
        simp [ofSteps]
      rw [applied, ih]
      cases step <;>
        simp [QueryStep.apply, find, sort, project, limitTo, QueryStep.filter?, QueryStep.sort?,
          QueryStep.projection?, QueryStep.limit?]

theorem isShaping_ofSteps_eq_false_iff {steps : List QueryStep} :
    (ofSteps steps).isShaping = false ↔ ∀ step ∈ steps, step.isLimit = true := by
  rw [← Bool.not_eq_true, isShaping_iff, ofSteps_eq]
  simp [QueryStep.isLimit_iff, forall_and]

end Query

/-- An order has each field where it is mentioned first, with the direction that it is given
    last. -/
def IsOrder (order : Option Json) (sorts : List (String × SortDirection)) : Prop :=
  match sorts with
  | [] => order = none
  | _ :: _ => ∃ members : Members, order = some (.object members) ∧
      members.keys = (sorts.map Prod.fst).eraseDups ∧
      ∀ field, members.find? field = (sorts.reverse.lookup field).map SortDirection.wire

/-- What steps say of the parts of their query. -/
structure QueryParts.IsOfSteps (compiled : QueryParts) (steps : List QueryStep) : Prop where
  query : ∃ wires, List.Forall₂ (fun filter wire => Query.compileIn .document filter = .ok wire)
      (steps.filterMap QueryStep.filter?) wires ∧ compiled.query = Query.conjunction wires
  sort : IsOrder compiled.sort (steps.filterMap QueryStep.sort?)
  projection : compiled.projection =
    (steps.filterMap QueryStep.projection?).getLast?.map Projection.wire
  limit : compiled.limit = (steps.filterMap QueryStep.limit?).getLast?

namespace Query

theorem lookup_wires (sorts : List (String × SortDirection)) (field : String) :
    (sorts.map fun (name, direction) => (name, direction.wire)).lookup field =
      (sorts.lookup field).map SortDirection.wire := by
  induction sorts with
  | nil => rfl
  | cons sort rest ih =>
      obtain ⟨name, direction⟩ := sort
      simp only [List.map_cons, List.lookup_cons, ih]
      cases field == name <;> rfl

theorem isOrder_order (query : Query) : IsOrder query.order query.sorts := by
  unfold order IsOrder
  cases query.sorts with
  | nil => rfl
  | cons sort rest =>
      refine ⟨_, rfl, ?_, fun field => ?_⟩
      · rw [Members.keys_ofPairs, List.map_map]
        rfl
      · rw [Members.find?_ofPairs, ← List.map_reverse, lookup_wires]

theorem isOfSteps {steps : List QueryStep} {compiled : QueryParts}
    (compiles : (ofSteps steps).parts = .ok compiled) : compiled.IsOfSteps steps := by
  rw [ofSteps_eq] at compiles
  obtain ⟨wires, filters, rfl⟩ := parts_eq_ok_iff.mp compiles
  exact ⟨⟨wires, compileEach_eq_ok_iff.mp filters, rfl⟩, isOrder_order _, rfl, rfl⟩

/-! ## What is sent -/

theorem text_ofUInt64 (n : UInt64) : (Json.number (.ofUInt64 n)).text = toString n.toNat := rfl

theorem configuration_limited (query : Query) (limit : Option UInt64) :
    Configuration.ofQuery { query with limit := limit } = Configuration.ofQuery query := by
  have sameShape : isShaping { query with limit := limit } = query.isShaping := rfl
  cases shaping : query.isShaping with
  | false =>
      rw [configuration_of_not_shaping shaping,
        configuration_of_not_shaping (sameShape.trans shaping)]
  | true =>
      rw [configuration_of_shaping shaping, configuration_of_shaping (sameShape.trans shaping),
        parts_eq, parts_eq]
      cases condition query.filters <;> rfl

theorem filterMap_unlimited {β : Type} (part? : QueryStep → Option β)
    (none : ∀ count, part? (.limit count) = none) (steps : List QueryStep) :
    (steps.filter fun step => !step.isLimit).filterMap part? = steps.filterMap part? := by
  rw [List.filterMap_filter]
  refine List.filterMap_congr fun step _ => ?_
  cases step with
  | limit count => exact (none count).symm
  | find | sort | project => rfl

/-- Limits do not count for a frame. -/
theorem configuration_unlimited (steps : List QueryStep) :
    Configuration.ofQuery (ofSteps (steps.filter fun step => !step.isLimit)) =
      Configuration.ofQuery (ofSteps steps) := by
  rw [ofSteps_eq, ofSteps_eq, filterMap_unlimited QueryStep.filter? fun _ => rfl,
    filterMap_unlimited QueryStep.sort? fun _ => rfl,
    filterMap_unlimited QueryStep.projection? fun _ => rfl]
  exact configuration_limited ⟨_, _, _, _⟩ _

/-- The parts that a listener sends are all but the limit. -/
theorem wire_configuration (compiled : QueryParts) :
    ∃ members, compiled.wire = .object members ∧
      Configuration.wire ⟨compiled.query, compiled.projection, compiled.sort⟩ =
        .object (members.filter fun member => member.1 != "limit") := by
  obtain ⟨filter, projection, sort, limit⟩ := compiled
  refine ⟨_, rfl, ?_⟩
  cases filter <;> cases projection <;> cases sort <;> cases limit <;> rfl

/-- A request has the texts of all parts, the order before the projection. -/
theorem queryPairs_perm (compiled : QueryParts) :
    ∃ members, compiled.wire = .object members ∧
      (RequestDraft.queryPairs compiled).Perm
        (members.map fun member => (member.1, member.2.text)) := by
  refine ⟨_, rfl, ?_⟩
  have texts {β : Type} (part : Option β) (key : String) (wire : β → Json) :
      ((part.map fun value => (key, wire value)).toList.map
          fun member => (member.1, member.2.text)) =
        (part.map fun value => (key, (wire value).text)).toList := by
    cases part <;> rfl
  simp only [RequestDraft.queryPairs, List.map_append, texts _ _ fun value => value, texts,
    text_ofUInt64, List.append_assoc]
  refine .append_left _ ?_
  rw [← List.append_assoc, ← List.append_assoc]
  exact List.perm_append_comm.append_right _

/-- The frame of a listener and a one-shot request, for a query that is built in any steps. There is
    a frame if some step is no limit. Frame and request fail as the query does; or else the frame
    has the query's parts without the limit, and the request has the texts of all. The parts say
    what the steps do, and steps that differ in limits only have the same frame. -/
theorem encodings_agree (steps : List QueryStep) (base : Url) (collection : CollectionReference)
    (token projectName : Option String) :
    let query := ofSteps steps
    let frame := Configuration.ofQuery query
    let request := query.request base collection token projectName
    (frame = .ok none ↔ ∀ step ∈ steps, step.isLimit = true) ∧
      (∀ error, frame = .error error ↔ query.parts = .error error) ∧
      (∀ error, query.parts = .error error → request = .error error) ∧
      (∀ compiled, query.parts = .ok compiled → compiled.IsOfSteps steps ∧
        ∃ members, compiled.wire = .object members ∧
          ((∃ step ∈ steps, step.isLimit = false) → ∃ configuration,
            frame = .ok (some configuration) ∧
              configuration.wire = .object (members.filter fun member => member.1 != "limit")) ∧
          ∀ made, request = .ok made → made.body = none ∧ ∃ carried,
            made.url.pairs = base.pairs ++ (Url.projectPair token projectName ++ carried) ∧
              carried.Perm (members.map fun member => (member.1, member.2.text))) ∧
      ∀ others,
        (others.filter fun step => !step.isLimit) = (steps.filter fun step => !step.isLimit) →
        Configuration.ofQuery (ofSteps others) = frame := by
  intro query frame request
  refine ⟨?_, fun error => configuration_eq_error_iff, fun error failed => ?_,
    fun compiled compiles => ⟨isOfSteps compiles, ?_⟩, fun others same => ?_⟩
  · rw [← isShaping_ofSteps_eq_false_iff]
    exact configuration_eq_none_iff
  · simp only [request, Query.request, RequestDraft.query, failed]
    rfl
  · obtain ⟨members, wire, framed⟩ := wire_configuration compiled
    obtain ⟨_, wireSo, carried⟩ := queryPairs_perm compiled
    cases wire.symm.trans wireSo
    refine ⟨members, wire, fun shaped => ⟨_, ?_, framed⟩, fun made sent => ?_⟩
    · have shaping : query.isShaping = true := by
        obtain ⟨step, mem, unlimited⟩ := shaped
        rw [← Bool.not_eq_false, isShaping_ofSteps_eq_false_iff]
        intro all
        cases unlimited.symm.trans (all step mem)
      exact configuration_eq_some_iff.mpr ⟨shaping, compiled, compiles, rfl⟩
    · obtain ⟨_, compilesSo, -, bodiless, read⟩ := request_eq_ok sent
      cases compiles.symm.trans compilesSo
      exact ⟨bodiless, _, read, carried⟩
  · rw [← configuration_unlimited others, same, configuration_unlimited]

end Query

end DocStore
