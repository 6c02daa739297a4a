import DocStore.Proofs.Json.Members
import DocStore.Schema

/-! # Conforming to a schema

What a schema asks of a value, said without a validator: no locations, no order of checks, no
bound on references. The validator accepts exactly the conforming values, as long as the
definitions are guarded, so that following references ends before the next step into the value.
-/

namespace DocStore

namespace Json

/-- A number of either kind. -/
def IsNumber (value : Json) : Prop :=
  ∃ number, value = .number number

/-- A list with at least so many items, all of them good. -/
def IsListOf (least : Nat) (good : Json → Prop) (value : Json) : Prop :=
  ∃ items, value = .array items ∧ least ≤ items.length ∧ ∀ item ∈ items, good item

end Json

namespace Schema

/-- A value conforms to a schema. Of a property that is declared twice both declarations count. -/
inductive Conforms (definitions : Definitions) : Schema → Json → Prop
  | object {properties : List (String × Schema)} {required : List String} {additional : Bool}
      {members : Members} (present : ∀ name ∈ required, name ∈ members.keys)
      (declared : additional = false → ∀ key ∈ members.keys, key ∈ properties.map Prod.fst)
      (parts : ∀ property ∈ properties, ∀ value, members.find? property.1 = some value →
        Conforms definitions property.2 value) :
      Conforms definitions (.object properties required additional) (.object members)
  | array {items : Schema} {least : Nat} {values : List Json} (enough : least ≤ values.length)
      (parts : ∀ value ∈ values, Conforms definitions items value) :
      Conforms definitions (.array items least) (.array values)
  | oneOf {alternatives : List Schema} {alternative : Schema} {value : Json}
      (listed : alternative ∈ alternatives) (accepted : Conforms definitions alternative value) :
      Conforms definitions (.oneOf alternatives) value
  | number (number : JsonNumber) : Conforms definitions .number (.number number)
  | string {pattern : Option Pattern} {text : String}
      (found : ∀ sought, pattern = some sought → sought.isFound text = true) :
      Conforms definitions (.string pattern) (.string text)
  | reference {name : String} {target : Schema} {value : Json}
      (defined : definitions.lookup name = some target)
      (accepted : Conforms definitions target value) :
      Conforms definitions (.reference name) value

mutual

/-- The names that a schema refers to before any step into the value. -/
def openReferences : Schema → List String
  | .reference name => [name]
  | .oneOf alternatives => openReferencesOfEach alternatives
  | .object _ _ _ | .array _ _ | .number | .string _ => []
termination_by structural schema => schema

/-- The names that several schemas refer to before any step into the value. -/
def openReferencesOfEach : List Schema → List String
  | [] => []
  | schema :: rest => openReferences schema ++ openReferencesOfEach rest
termination_by structural schemas => schemas

end

/-- A bound on the references that are followed from some names before the next step into the
    value, each defined name having a rank. -/
def NeedAtMost (definitions : Definitions) (rank : String → Nat) (hops : Nat)
    (names : List String) : Prop :=
  ∀ name ∈ names, (definitions.lookup name).isSome → rank name < hops

/-- Definitions that refer only to those of smaller rank, unless a step into the value comes
    before. -/
def IsGuarded (definitions : Definitions) (rank : String → Nat) : Prop :=
  ∀ name target, definitions.lookup name = some target →
    rank name < definitions.length ∧
      NeedAtMost definitions rank (rank name) target.openReferences

variable {definitions : Definitions} {rank : String → Nat}

theorem IsGuarded.needAtMost (guarded : IsGuarded definitions rank) (names : List String) :
    NeedAtMost definitions rank definitions.length names := by
  intro name _ defined
  obtain ⟨target, found⟩ := Option.isSome_iff_exists.mp defined
  exact (guarded name target found).1

theorem missing?_eq_none_iff {required : List String} {members : Members} :
    missing? required members = none ↔ ∀ name ∈ required, name ∈ members.keys := by
  simp only [missing?, List.find?_eq_none, Bool.not_eq_true', Bool.not_eq_false]
  refine forall₂_congr fun name _ => ?_
  rw [← not_iff_not, ← Members.contains_eq_false_iff, Bool.not_eq_true]

theorem undeclared?_eq_none_iff {properties : List (String × Schema)} {members : Members} :
    undeclared? properties members = none ↔
      ∀ key ∈ members.keys, key ∈ properties.map Prod.fst := by
  simp [undeclared?, List.find?_eq_none]

theorem conforms_object {properties : List (String × Schema)} {required : List String}
    {additional : Bool} {members : Members} :
    Conforms definitions (.object properties required additional) (.object members) ↔
      (∀ name ∈ required, name ∈ members.keys) ∧
        (additional = false → ∀ key ∈ members.keys, key ∈ properties.map Prod.fst) ∧
        ∀ property ∈ properties, ∀ value, members.find? property.1 = some value →
          Conforms definitions property.2 value := by
  constructor
  · intro conforms
    cases conforms with
    | object present declared parts => exact ⟨present, declared, parts⟩
  · rintro ⟨present, declared, parts⟩
    exact .object present declared parts

theorem conforms_array {items : Schema} {least : Nat} :
    Conforms definitions (.array items least) =
      Json.IsListOf least (Conforms definitions items) := by
  funext value
  refine propext ⟨fun conforms => ?_, ?_⟩
  · cases conforms with
    | array enough parts => exact ⟨_, rfl, enough, parts⟩
  · rintro ⟨values, rfl, enough, parts⟩
    exact .array enough parts

theorem conforms_number : Conforms definitions .number = Json.IsNumber := by
  funext value
  refine propext ⟨fun conforms => ?_, ?_⟩
  · cases conforms with
    | number number => exact ⟨number, rfl⟩
  · rintro ⟨number, rfl⟩
    exact .number number

theorem conforms_oneOf {alternatives : List Schema} {value : Json} :
    Conforms definitions (.oneOf alternatives) value ↔
      ∃ alternative ∈ alternatives, Conforms definitions alternative value := by
  constructor
  · intro conforms
    cases conforms with
    | oneOf listed accepted => exact ⟨_, listed, accepted⟩
  · rintro ⟨alternative, listed, accepted⟩
    exact .oneOf listed accepted

theorem conforms_reference {name : String} {target : Schema}
    (defined : definitions.lookup name = some target) {value : Json} :
    Conforms definitions (.reference name) value ↔ Conforms definitions target value := by
  constructor
  · intro conforms
    cases conforms with
    | reference found accepted =>
        rw [defined] at found
        cases found
        exact accepted
  · exact .reference defined

theorem conforms_exactly {word : String} {value : Json} :
    Conforms definitions (.string (some (.exactly word))) value ↔ value = .string word := by
  constructor
  · intro conforms
    cases conforms with
    | string found =>
        have same := found _ rfl
        rw [Pattern.isFound_exactly, decide_eq_true_eq] at same
        rw [same]
  · rintro rfl
    refine .string fun sought same => ?_
    cases same
    rw [Pattern.isFound_exactly, decide_eq_true_eq]

mutual

/-- The validator accepts exactly the conforming values, wherever they stand. -/
theorem validateWithin_eq_ok_iff (guarded : IsGuarded definitions rank) (hops : Nat)
    (schema : Schema) (value : Json) (location : Location)
    (bounded : NeedAtMost definitions rank hops schema.openReferences) :
    validateWithin definitions hops schema value location = .ok () ↔
      Conforms definitions schema value := by
  rw [validateWithin.eq_def]
  split
  next properties required additional =>
    split
    next members =>
      rw [conforms_object, ← missing?_eq_none_iff, ← undeclared?_eq_none_iff]
      split
      next name lacks => simp [mismatch, lacks]
      next complete =>
        rw [complete]
        split
        next key extra =>
          cases additional <;> simp_all [mismatch]
        next known =>
          rw [validateProperties_eq_ok_iff guarded properties members location]
          cases additional <;> simp_all
    next other notObject =>
      refine iff_of_false (by simp [mismatch]) fun conforms => ?_
      cases conforms
      exact notObject _ rfl
  next items least =>
    rw [conforms_array]
    split
    next values =>
      split
      next few =>
        refine iff_of_false (by simp [mismatch]) ?_
        rintro ⟨_, same, enough, -⟩
        cases same
        exact Nat.not_le_of_lt few enough
      next enough =>
        rw [validateItems_eq_ok_iff guarded items values 0 location]
        simp [Json.IsListOf, Nat.le_of_not_lt enough]
    next other notArray =>
      refine iff_of_false (by simp [mismatch]) ?_
      rintro ⟨values, same, -⟩
      exact notArray values same
  next alternatives =>
    rw [conforms_oneOf, ← anyAccepts_iff guarded hops alternatives value location bounded]
    split
    next accepts => simp [accepts]
    next refuses => simp [refuses, mismatch]
  next =>
    rw [conforms_number]
    split
    next number => exact iff_of_true rfl ⟨number, rfl⟩
    next other notNumber =>
      refine iff_of_false (by simp [mismatch]) ?_
      rintro ⟨number, same⟩
      exact notNumber number same
  next pattern =>
    split
    next text =>
      split
      next => exact iff_of_true rfl (.string fun _ impossible => by cases impossible)
      next sought =>
        split
        next found => exact iff_of_true rfl (.string fun _ same => by cases same; exact found)
        next lost =>
          refine iff_of_false (by simp [mismatch]) fun conforms => ?_
          cases conforms with
          | string found => exact lost (found _ rfl)
    next other notString =>
      refine iff_of_false (by simp [mismatch]) fun conforms => ?_
      cases conforms
      exact notString _ rfl
  next name =>
    cases found : definitions.lookup name with
    | none =>
        refine iff_of_false (by cases hops <;> simp [mismatch]) fun conforms => ?_
        cases conforms with
        | reference defined accepted =>
            rw [found] at defined
            cases defined
    | some target =>
        have small : rank name < hops :=
          bounded name List.mem_cons_self (Option.isSome_of_eq_some found)
        obtain ⟨fewer, rfl⟩ := Nat.exists_eq_succ_of_ne_zero (Nat.ne_zero_of_lt small)
        rw [conforms_reference found]
        refine validateWithin_eq_ok_iff guarded fewer target value location ?_
        intro other opened defined
        exact Nat.lt_of_lt_of_le ((guarded name target found).2 other opened defined)
          (Nat.le_of_lt_succ small)
termination_by (sizeOf value, hops, sizeOf schema)

theorem validateProperties_eq_ok_iff (guarded : IsGuarded definitions rank)
    (properties : List (String × Schema)) (members : Members) (location : Location) :
    validateProperties definitions properties members location = .ok () ↔
      ∀ property ∈ properties, ∀ value, members.find? property.1 = some value →
        Conforms definitions property.2 value := by
  cases properties with
  | nil =>
      rw [validateProperties]
      simp
  | cons property rest =>
      obtain ⟨name, schema⟩ := property
      rw [validateProperties, List.forall_mem_cons]
      have later := validateProperties_eq_ok_iff guarded rest members location
      split
      next value found =>
        have smaller := sizeOf_lt_of_lookup found
        have first := validateWithin_eq_ok_iff guarded definitions.length schema value
          (location.member name) (guarded.needAtMost _)
        have only : (∀ other, members.find? name = some other →
            Conforms definitions schema other) ↔ Conforms definitions schema value := by
          simp [Members.find?, found]
        rw [only, ← first, ← later]
        split
        next accepted => simp [accepted]
        next reason broken => simp [broken]
      next absent =>
        rw [later]
        simp [Members.find?, absent]
termination_by (sizeOf members, 0, sizeOf properties)

theorem validateItems_eq_ok_iff (guarded : IsGuarded definitions rank) (schema : Schema)
    (values : List Json) (index : Nat) (location : Location) :
    validateItems definitions schema values index location = .ok () ↔
      ∀ value ∈ values, Conforms definitions schema value := by
  cases values with
  | nil =>
      rw [validateItems]
      simp
  | cons value rest =>
      rw [validateItems, List.forall_mem_cons,
        ← validateWithin_eq_ok_iff guarded definitions.length schema value (location.item index)
          (guarded.needAtMost _),
        ← validateItems_eq_ok_iff guarded schema rest (index + 1) location]
      split
      next accepted => simp [accepted]
      next reason broken => simp [broken]
termination_by (sizeOf values, 0, 0)

theorem anyAccepts_iff (guarded : IsGuarded definitions rank) (hops : Nat)
    (alternatives : List Schema) (value : Json) (location : Location)
    (bounded : NeedAtMost definitions rank hops (openReferencesOfEach alternatives)) :
    anyAccepts definitions hops alternatives value location = true ↔
      ∃ alternative ∈ alternatives, Conforms definitions alternative value := by
  cases alternatives with
  | nil =>
      rw [anyAccepts]
      simp
  | cons schema rest =>
      have ⟨here, later⟩ := List.forall_mem_append.mp bounded
      rw [anyAccepts, List.exists_mem_cons_iff,
        ← validateWithin_eq_ok_iff guarded hops schema value location here,
        ← anyAccepts_iff guarded hops rest value location later]
      split
      next accepted => simp [accepted]
      next reason broken => simp [broken]
termination_by (sizeOf value, hops, sizeOf alternatives)

end

/-- For guarded definitions, validation succeeds exactly for the conforming values, wherever they
    stand. -/
theorem validate_eq_ok_iff (guarded : IsGuarded definitions rank) {schema : Schema} {value : Json}
    {location : Location} :
    validate definitions schema value location = .ok () ↔ Conforms definitions schema value :=
  validateWithin_eq_ok_iff guarded definitions.length schema value location
    (guarded.needAtMost _)

end Schema

end DocStore
