import DocStore.Subscription.Engine

/-! # Runs of an engine

What happens to an engine, one thing after the other: signals that end its waits, and the caller's
own acts. A run collects what the engine does about them. A closed engine does nothing any more,
so that a run may go on after the end of the subscription.
-/

namespace DocStore

/-- What happens to an engine. -/
inductive Move where
  /-- A signal, with what the source of tokens would give at that moment. -/
  | signal (token : Option String) (signal : Signal)
  | stop
  | drop

/-- The item that an effect hands to the caller. -/
def Effect.item? : Effect → Option Item
  | .deliver item => some item
  | .enter _ | .readToken | .connect _ _ | .send _ | .closeConnection | .sleep _ | .report _ => none

/-- The items that the caller reads, in order. -/
def itemsOf (effects : List Effect) : List Item :=
  effects.filterMap Effect.item?

@[simp] theorem itemsOf_nil : itemsOf [] = [] := rfl

@[simp] theorem itemsOf_append (first second : List Effect) :
    itemsOf (first ++ second) = itemsOf first ++ itemsOf second :=
  List.filterMap_append

@[simp] theorem itemsOf_cons (effect : Effect) (rest : List Effect) :
    itemsOf (effect :: rest) = effect.item?.toList ++ itemsOf rest := by
  cases given : effect.item? <;> simp [itemsOf, given]

@[simp] theorem itemsOf_map_deliver (items : List Item) : itemsOf (items.map .deliver) = items := by
  induction items with
  | nil => rfl
  | cons item rest ih => exact congrArg (item :: ·) ih

@[simp] theorem itemsOf_map_send (texts : List String) : itemsOf (texts.map .send) = [] := by
  induction texts with
  | nil => rfl
  | cons text rest ih => exact ih

namespace Engine

@[simp] theorem phase_stop (engine : Engine) : engine.stop.phase = engine.phase := by
  unfold stop
  split <;> rfl

@[simp] theorem everOpened_stop (engine : Engine) : engine.stop.everOpened = engine.everOpened := by
  unfold stop
  split <;> rfl

/-- What an engine does about one thing that happens. -/
def move (engine : Engine) (listener : Listener) : Move → Engine × List Effect
  | .signal token signal => engine.step listener token signal
  | .stop => (engine.stop, [])
  | .drop => (engine.drop, [])

/-- What an engine does about many things that happen. -/
def run (listener : Listener) (engine : Engine) : List Move → Engine × List Effect
  | [] => (engine, [])
  | first :: rest =>
      let moved := engine.move listener first
      let later := run listener moved.1 rest
      (later.1, moved.2 ++ later.2)

variable {engine : Engine} {listener : Listener}

theorem run_singleton (only : Move) :
    engine.run listener [only] = engine.move listener only := by
  simp [run]

theorem run_cons_fst (engine : Engine) (listener : Listener) (first : Move) (rest : List Move) :
    (engine.run listener (first :: rest)).1 =
      ((engine.move listener first).1.run listener rest).1 := rfl

theorem run_cons {first : Move} {rest : List Move} {next last : Engine}
    {effects later : List Effect} (moved : engine.move listener first = (next, effects))
    (ran : next.run listener rest = (last, later)) :
    engine.run listener (first :: rest) = (last, effects ++ later) := by
  rw [run, moved, ran]

theorem run_append {first second : List Move} {next last : Engine} {effects later : List Effect}
    (began : engine.run listener first = (next, effects))
    (ran : next.run listener second = (last, later)) :
    engine.run listener (first ++ second) = (last, effects ++ later) := by
  induction first generalizing engine effects with
  | nil =>
      cases began
      exact ran
  | cons head tail ih =>
      cases began
      simp only [List.cons_append, run, ih rfl, List.append_assoc]

theorem step_of_closed {reason : EndReason} (closed : engine.phase = .closed reason)
    (token : Option String) (signal : Signal) :
    engine.step listener token signal = (engine, []) := by
  unfold step
  rw [closed]

/-- A closed engine stays closed, and does nothing any more. -/
theorem run_of_closed {reason : EndReason} (listener : Listener)
    (closed : engine.phase = .closed reason) (moves : List Move) :
    (engine.run listener moves).2 = [] ∧ (engine.run listener moves).1.phase = .closed reason := by
  induction moves generalizing engine with
  | nil => exact ⟨rfl, closed⟩
  | cons head tail ih =>
      obtain ⟨next, moved, stillClosed⟩ : ∃ next, engine.move listener head = (next, []) ∧
          next.phase = .closed reason := by
        cases head with
        | signal token signal => exact ⟨engine, step_of_closed closed token signal, closed⟩
        | stop => exact ⟨engine.stop, rfl, (phase_stop engine).trans closed⟩
        | drop => exact ⟨engine.drop, rfl, closed⟩
      obtain ⟨silent, ended⟩ := ih stillClosed
      rw [run_cons moved rfl]
      exact ⟨silent, ended⟩

end Engine

end DocStore
