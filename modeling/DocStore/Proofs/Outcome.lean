import DocStore.Error
import Mathlib.Data.List.Forall2

/-! # Outcomes of checks

A computation that may fail, seen from outside. `Ensures check good` says that every result is a
good one. `Decides check holds` says that the check succeeds exactly when `holds` does, and that
it blames the caller's own input otherwise; a sequence of checks decides the conjunction of what
its parts decide.
-/

namespace DocStore

variable {ε α β : Type}

theorem bind_eq_ok_iff {check : Except ε α} {next : α → Except ε β} {result : β} :
    (check >>= next) = .ok result ↔ ∃ value, check = .ok value ∧ next value = .ok result := by
  cases check with
  | error e =>
      constructor
      · intro impossible
        cases impossible
      · rintro ⟨_, impossible, _⟩
        cases impossible
  | ok value =>
      constructor
      · intro same
        exact ⟨value, rfl, same⟩
      · rintro ⟨_, found, same⟩
        cases found
        exact same

theorem bind_pure_eq_ok_iff {check : Except ε α} {make : α → β} {result : β} :
    (do
        let value ← check
        return make value) = .ok result ↔ ∃ value, check = .ok value ∧ result = make value := by
  rw [bind_eq_ok_iff]
  constructor
  · rintro ⟨value, found, same⟩
    cases same
    exact ⟨value, found, rfl⟩
  · rintro ⟨value, found, rfl⟩
    exact ⟨value, found, rfl⟩

theorem bind_eq_error_iff {check : Except ε α} {next : α → Except ε β} {e : ε} :
    (check >>= next) = .error e ↔
      check = .error e ∨ ∃ value, check = .ok value ∧ next value = .error e := by
  cases check with
  | error other =>
      constructor
      · intro same
        cases same
        exact .inl rfl
      · rintro (same | ⟨_, impossible, _⟩)
        · cases same
          rfl
        · cases impossible
  | ok value =>
      constructor
      · intro failed
        exact .inr ⟨value, rfl, failed⟩
      · rintro (impossible | ⟨_, found, failed⟩)
        · cases impossible
        · cases found
          exact failed

theorem map_eq_ok_iff {check : Except ε α} {make : α → β} {result : β} :
    check.map make = .ok result ↔ ∃ value, check = .ok value ∧ make value = result := by
  cases check <;> simp [Except.map]

theorem map_eq_error_iff {check : Except ε α} {make : α → β} {e : ε} :
    check.map make = .error e ↔ check = .error e := by
  cases check <;> simp [Except.map]

theorem mapError_eq_ok_iff {δ : Type} {check : Except δ α} {rename : δ → ε} {result : α} :
    check.mapError rename = .ok result ↔ check = .ok result := by
  cases check with
  | error e => constructor <;> (intro impossible; cases impossible)
  | ok value => constructor <;> (intro same; cases same; rfl)

/-- A list has a companion, element by element, when each of its elements has one. -/
theorem exists_forall₂_iff {related : α → β → Prop} {items : List α} :
    (∃ others, List.Forall₂ related items others) ↔
      ∀ item ∈ items, ∃ other, related item other := by
  induction items with
  | nil => simp
  | cons item rest ih =>
      rw [List.forall_mem_cons, ← ih]
      constructor
      · rintro ⟨_, both⟩
        cases both with
        | cons first later => exact ⟨⟨_, first⟩, _, later⟩
      · rintro ⟨⟨_, first⟩, _, later⟩
        exact ⟨_, .cons first later⟩

/-- A list of checks succeeds when each of them does. -/
theorem mapM_eq_ok_iff {check : α → Except ε β} {items : List α} {results : List β} :
    items.mapM check = .ok results ↔
      List.Forall₂ (fun item result => check item = .ok result) items results := by
  induction items generalizing results with
  | nil =>
      rw [List.mapM_nil, List.forall₂_nil_left_iff]
      exact ⟨fun same => by cases same; rfl, fun same => by cases same; rfl⟩
  | cons item rest ih =>
      simp only [List.mapM_cons, bind_eq_ok_iff, ih, List.forall₂_cons_left_iff]
      constructor
      · rintro ⟨first, checked, later, checkedRest, made⟩
        cases made
        exact ⟨first, later, checked, checkedRest, rfl⟩
      · rintro ⟨first, later, checked, checkedRest, rfl⟩
        exact ⟨first, checked, later, checkedRest, rfl⟩

/-- A list of checks fails as the first of them that does. -/
theorem mapM_eq_error_iff {check : α → Except ε β} {items : List α} {e : ε} :
    items.mapM check = .error e ↔
      ∃ before item after, items = before ++ item :: after ∧
        (∀ passed ∈ before, ∃ result, check passed = .ok result) ∧ check item = .error e := by
  induction items with
  | nil =>
      constructor
      · intro impossible
        cases impossible
      · rintro ⟨before, item, after, impossible, -⟩
        simp at impossible
  | cons first rest ih =>
      simp only [List.mapM_cons, bind_eq_error_iff, ih]
      constructor
      · rintro (failed | ⟨result, passed, ⟨before, item, after, rfl, allPassed, failed⟩ |
          ⟨_, _, impossible⟩⟩)
        · exact ⟨[], first, rest, rfl, nofun, failed⟩
        · exact ⟨first :: before, item, after, rfl,
            List.forall_mem_cons.mpr ⟨⟨result, passed⟩, allPassed⟩, failed⟩
        · cases impossible
      · rintro ⟨before, item, after, split, allPassed, failed⟩
        cases before with
        | nil =>
            cases split
            exact .inl failed
        | cons head tail =>
            obtain ⟨rfl, rfl⟩ := List.cons.inj split
            obtain ⟨⟨result, passed⟩, tailPassed⟩ := List.forall_mem_cons.mp allPassed
            exact .inr ⟨result, passed, .inl ⟨tail, item, after, rfl, tailPassed, failed⟩⟩

/-- Every result of a check is a good one. -/
def Ensures (check : Except ε α) (good : α → Prop) : Prop :=
  ∀ result, check = .ok result → good result

namespace Ensures

variable {check : Except ε α} {next : α → Except ε β} {good : α → Prop}

theorem ok {value : α} (isGood : good value) : Ensures (.ok value : Except ε α) good := by
  intro result same
  cases same
  exact isGood

theorem error (e : ε) : Ensures (.error e) good := by
  intro result impossible
  cases impossible

theorem bind {final : β → Prop}
    (later : ∀ value, check = .ok value → Ensures (next value) final) :
    Ensures (check >>= next) final := by
  intro result succeeded
  obtain ⟨value, found, same⟩ := bind_eq_ok_iff.mp succeeded
  exact later value found result same

theorem branch {condition : Prop} [Decidable condition] {other : Except ε α}
    (yes : condition → Ensures check good) (no : ¬condition → Ensures other good) :
    Ensures (if condition then check else other) good := by
  split
  · exact yes ‹_›
  · exact no ‹_›

end Ensures

/-- A check succeeds exactly when something holds, and its errors are faults of the caller's own
    input. -/
def Decides (check : Except Error α) (holds : Prop) : Prop :=
  match check with
  | .ok _ => holds
  | .error e => ¬holds ∧ e.isInputFault = true

namespace Decides

variable {check : Except Error α} {next : α → Except Error β} {holds later : Prop}

theorem ok (value : α) : Decides (.ok value) True := trivial

theorem error {e : Error} (fails : ¬holds) (fault : e.isInputFault = true) :
    Decides (.error e : Except Error α) holds :=
  ⟨fails, fault⟩

theorem congr (decides : Decides check holds) (same : holds ↔ later) : Decides check later :=
  propext same ▸ decides

/-- The second check is run on what the first one found. -/
theorem bind (first : Decides check holds)
    (second : ∀ value, check = .ok value → Decides (next value) later) :
    Decides (check >>= next) (holds ∧ later) := by
  cases found : check with
  | error e =>
      rw [found] at first
      exact error (fun both => first.1 both.1) first.2
  | ok value =>
      rw [found] at first
      have held : holds := first
      exact (second value found).congr (by simp only [held, true_and])

/-- The first check is only on the way to what the second one decides. -/
theorem bindOnTheWay (first : Decides check holds) (needed : later → holds)
    (second : ∀ value, check = .ok value → Decides (next value) later) :
    Decides (check >>= next) later :=
  (first.bind second).congr ⟨And.right, fun held => ⟨needed held, held⟩⟩

/-- What is made of a result cannot fail any more. -/
theorem map (decides : Decides check holds) (make : α → β) :
    Decides (check >>= fun value => pure (make value)) holds :=
  (decides.bind fun value _ => ok (make value)).congr (by rw [and_true])

theorem branch {condition : Prop} [Decidable condition] {other : Except Error α}
    (yes : condition → Decides check holds) (no : ¬condition → Decides other holds) :
    Decides (if condition then check else other) holds := by
  split
  · exact yes ‹_›
  · exact no ‹_›

theorem ok_iff (decides : Decides check holds) : (∃ value, check = .ok value) ↔ holds := by
  cases check with
  | error e =>
      constructor
      · rintro ⟨_, impossible⟩
        cases impossible
      · intro held
        exact absurd held decides.1
  | ok value => exact ⟨fun _ => decides, fun _ => ⟨value, rfl⟩⟩

theorem inputFault (decides : Decides check holds) {e : Error} (failed : check = .error e) :
    e.isInputFault = true := by
  subst failed
  exact decides.2

end Decides

end DocStore
