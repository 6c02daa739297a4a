import DocStore.Proofs.Subscription.Reaction

/-! # The states that a subscription goes through

Whatever happens to an engine, the states that it enters form a path of one graph. The end is told
once and after everything else, and a reconnection is only ever announced by a listener that asked
for it and only after some connection has been open.
-/

namespace DocStore

namespace LifecycleState

/-- The states that may come next. -/
@[simp] def successors : LifecycleState → List LifecycleState
  | .idle => [.connecting, .closed]
  | .connecting => [.opened, .reconnecting, .closed]
  | .opened => [.streaming, .reconnecting, .closed]
  | .streaming => [.reconnecting, .closed]
  | .reconnecting => [.connecting, .closed]
  | .closed => []

/-- The listed states can be entered one after the other, and the last state is the one that is
    reached. -/
def IsPath : LifecycleState → List LifecycleState → LifecycleState → Prop
  | start, [], last => start = last
  | start, next :: rest, last => next ∈ start.successors ∧ next.IsPath rest last

variable {start middle last : LifecycleState}

theorem IsPath.append {first second : List LifecycleState} (begins : start.IsPath first middle)
    (continues : middle.IsPath second last) : start.IsPath (first ++ second) last := by
  induction first generalizing start with
  | nil =>
      cases begins
      exact continues
  | cons next rest ih => exact ⟨begins.1, ih begins.2⟩

theorem ne_closed_of_mem_successors {next : LifecycleState} (follows : next ∈ start.successors) :
    start ≠ .closed := by
  rintro rfl
  cases follows

theorem closed_mem_successors (unended : start ≠ .closed) : .closed ∈ start.successors := by
  cases start with
  | closed => exact absurd rfl unended
  | _ => decide

end LifecycleState

namespace Effect

/-- The state that an effect enters. -/
@[simp] def state? : Effect → Option LifecycleState
  | .enter state => some state
  | .readToken | .connect _ _ | .send _ | .closeConnection | .deliver _ | .sleep _ | .report _ =>
      none

/-- Whether an effect tells of the end of the subscription. -/
@[simp] def isFinal : Effect → Bool
  | .enter .closed | .report _ => true
  | _ => false

end Effect

/-- The states that are entered, in order. -/
def statesOf (effects : List Effect) : List LifecycleState :=
  effects.filterMap Effect.state?

@[simp] theorem statesOf_nil : statesOf [] = [] := rfl

@[simp] theorem statesOf_append (first second : List Effect) :
    statesOf (first ++ second) = statesOf first ++ statesOf second :=
  List.filterMap_append

@[simp] theorem statesOf_cons (effect : Effect) (rest : List Effect) :
    statesOf (effect :: rest) = effect.state?.toList ++ statesOf rest := by
  rw [statesOf, List.filterMap_cons]
  cases effect.state? <;> rfl

/-- No effect tells of the end before the subscription ends. When it does, it is closed and its
    reason is reported, and nothing comes after that. -/
def Phase.EndsWith (phase : Phase) (effects : List Effect) : Prop :=
  match phase with
  | .closed reason =>
      ∃ before, effects = before ++ [.enter .closed, .report reason] ∧
        ∀ effect ∈ before, effect.isFinal = false
  | _ => ∀ effect ∈ effects, effect.isFinal = false

namespace Engine

variable {listener : Listener} {engine before middle after : Engine} {effects : List Effect}

theorem endsWith_of_state_ne_closed (unended : engine.state ≠ .closed) :
    engine.phase.EndsWith effects ↔ ∀ effect ∈ effects, effect.isFinal = false := by
  rw [state] at unended
  cases phase : engine.phase with
  | closed reason => exact absurd (by rw [phase]; rfl) unended
  | _ => rfl

/-- What holds of the effects that lead from one engine to another. -/
structure Conduct (listener : Listener) (before after : Engine) (effects : List Effect) :
    Prop where
  path : before.state.IsPath (statesOf effects) after.state
  rests : before.state = .closed → effects = [] ∧ after.phase = before.phase
  ends : before.state ≠ .closed → after.phase.EndsWith effects
  opens : after.everOpened = true ↔ before.everOpened = true ∨ .opened ∈ statesOf effects
  reconnects : ∀ earlier later, statesOf effects = earlier ++ .reconnecting :: later →
    listener.autoReconnect = true ∧ (before.everOpened = true ∨ .opened ∈ earlier)

/-- An engine that does nothing, while the caller may do something. -/
theorem conduct_of_silent (samePhase : after.phase = before.phase)
    (sameOpened : after.everOpened = before.everOpened) : Conduct listener before after [] where
  path := by rw [state, state, samePhase]; rfl
  rests _ := ⟨rfl, samePhase⟩
  ends unended := by
    have stillUnended : after.state ≠ .closed := by rwa [state, samePhase]
    exact (endsWith_of_state_ne_closed stillUnended).mpr (by simp)
  opens := by simp [sameOpened]
  reconnects := by simp

/-- Effects one after the other, the first ones by an engine that has not ended. -/
theorem Conduct.append {more : List Effect} (begins : Conduct listener before middle effects)
    (continues : Conduct listener middle after more) :
    Conduct listener before after (effects ++ more) where
  path := by
    rw [statesOf_append]
    exact begins.path.append continues.path
  rests ended := by
    obtain ⟨rfl, samePhase⟩ := begins.rests ended
    obtain ⟨rfl, stillSame⟩ := continues.rests (by rwa [state, samePhase])
    exact ⟨rfl, stillSame.trans samePhase⟩
  ends unended := by
    by_cases ended : middle.state = .closed
    · obtain ⟨rfl, samePhase⟩ := continues.rests ended
      rw [samePhase, List.append_nil]
      exact begins.ends unended
    · have quiet := (endsWith_of_state_ne_closed ended).mp (begins.ends unended)
      have finishes := continues.ends ended
      unfold Phase.EndsWith at finishes ⊢
      split at finishes
      next reason closed =>
          obtain ⟨early, rfl, stillQuiet⟩ := finishes
          refine ⟨effects ++ early, (List.append_assoc ..).symm, ?_⟩
          exact List.forall_mem_append.mpr ⟨quiet, stillQuiet⟩
      next => exact List.forall_mem_append.mpr ⟨quiet, finishes⟩
  opens := by
    rw [continues.opens, begins.opens, statesOf_append, List.mem_append, or_assoc]
  reconnects earlier later split := by
    rw [statesOf_append, List.append_eq_append_iff] at split
    -- A reconnection is announced by the first effects, by the others, or as the first of these.
    obtain ⟨middle, rfl, inSecond⟩ | ⟨middle, inFirst, split⟩ := split
    · obtain ⟨wished, opened⟩ := continues.reconnects middle later inSecond
      rw [begins.opens, or_assoc, ← List.mem_append] at opened
      exact ⟨wished, opened⟩
    · cases middle with
      | nil =>
          obtain ⟨wished, opened⟩ := continues.reconnects [] later split.symm
          rw [begins.opens, or_assoc, ← List.mem_append] at opened
          rw [List.append_nil] at inFirst
          rw [inFirst, List.append_nil] at opened
          exact ⟨wished, opened⟩
      | cons state rest =>
          obtain ⟨rfl, rfl⟩ := List.cons.inj split
          exact begins.reconnects earlier rest inFirst

/-- An engine that goes on, and neither ends nor reconnects. -/
theorem conduct_of_progress (path : before.state.IsPath (statesOf effects) after.state)
    (unended : before.state ≠ .closed) (stillUnended : after.state ≠ .closed)
    (opens : after.everOpened = true ↔ before.everOpened = true ∨ .opened ∈ statesOf effects :=
      by simp)
    (quiet : ∀ effect ∈ effects, effect.isFinal = false := by simp)
    (steady : .reconnecting ∉ statesOf effects := by simp) :
    Conduct listener before after effects where
  path := path
  rests ended := absurd ended unended
  ends _ := (endsWith_of_state_ne_closed stillUnended).mpr quiet
  opens := opens
  reconnects earlier later split := absurd (by simp [split]) steady

variable (listener)

theorem conduct_finish (unended : engine.state ≠ .closed) (reason : EndReason) :
    Conduct listener engine (engine.finish reason).1 (engine.finish reason).2 where
  path := ⟨LifecycleState.closed_mem_successors unended, rfl⟩
  rests ended := absurd ended unended
  ends _ := ⟨[], rfl, by simp⟩
  opens := by simp [finish]
  reconnects earlier later split := by
    have member : LifecycleState.reconnecting ∈ statesOf (engine.finish reason).2 := by
      simp [split]
    simp [finish] at member

theorem conduct_deliver (unended : engine.state ≠ .closed) (item : Item) :
    Conduct listener engine engine (engine.deliver item) := by
  unfold deliver
  split
  next => exact conduct_of_silent rfl rfl
  next => exact conduct_of_progress (by rfl) unended unended

theorem conduct_fail (unended : engine.state ≠ .closed) (item : Item) (reason : String) :
    Conduct listener engine (engine.fail item reason).1 (engine.fail item reason).2 :=
  (conduct_deliver listener unended item).append (conduct_finish listener unended _)

theorem conduct_attempt (ready : .connecting ∈ engine.state.successors) (token : Option String) :
    Conduct listener engine (engine.attempt listener token).1
      (engine.attempt listener token).2 := by
  have unended := LifecycleState.ne_closed_of_mem_successors ready
  have tries : Conduct listener engine { engine with phase := .connecting }
      [.enter .connecting, .readToken] :=
    conduct_of_progress ⟨ready, rfl⟩ unended nofun
  unfold attempt
  split
  next => exact conduct_finish listener unended .stopped
  next =>
      split
      next url found =>
          have connects : Conduct listener { engine with phase := .connecting }
              { engine with phase := .connecting } [.connect url token] :=
            conduct_of_progress rfl nofun nofun
          exact tries.append connects
      next error failed =>
          have unended : ({ engine with phase := .connecting } : Engine).state ≠ .closed := nofun
          exact tries.append (conduct_fail listener unended (.error error) error.message)

theorem conduct_lose (ready : .reconnecting ∈ engine.state.successors) (reason : String) :
    Conduct listener engine (engine.lose listener reason).1 (engine.lose listener reason).2 := by
  have unended := LifecycleState.ne_closed_of_mem_successors ready
  unfold lose
  split
  next => exact conduct_fail listener unended _ reason
  next opened =>
      rw [Bool.not_eq_true', Bool.not_eq_false] at opened
      split
      next wished =>
          exact {
            path := ⟨ready, rfl⟩
            rests := fun ended => absurd ended unended
            ends := fun _ => by simp [Phase.EndsWith]
            opens := by simp
            reconnects := fun _ _ _ => ⟨wished, .inl opened⟩ }
      next => exact conduct_finish listener unended _

theorem conduct_handFrame (streaming : engine.state = .streaming) (text : String) :
    Conduct listener engine (engine.handFrame listener text).1
      (engine.handFrame listener text).2 := by
  have unended : engine.state ≠ .closed := by simp [streaming]
  have hands := handFrame_handing listener engine text
  generalize engine.handFrame listener text = handed at hands ⊢
  cases hands with
  | ignored => exact conduct_of_silent rfl rfl
  | delivered => exact conduct_of_progress (by rfl) unended unended
  | undeliverable => exact conduct_of_progress streaming unended nofun

theorem conduct_step (engine : Engine) (token : Option String) (signal : Signal) :
    Conduct listener engine (engine.step listener token signal).1
      (engine.step listener token signal).2 := by
  have reacts := step_reaction listener token engine signal
  generalize engine.step listener token signal = stepped at reacts ⊢
  cases reacts with
  | begun waits =>
      have shown : engine.state = .idle := congrArg Phase.state waits
      exact conduct_attempt listener (by simp [shown]) token
  | elapsed waits =>
      have shown : engine.state = .reconnecting := congrArg Phase.state waits
      exact conduct_attempt listener (by simp [shown]) token
  | configuring text waits configured =>
      have shown : engine.state = .connecting := congrArg Phase.state waits
      exact conduct_of_progress ⟨by simp [shown], rfl⟩ (by simp [shown]) nofun
  | unconfigured waits plain =>
      have shown : engine.state = .connecting := congrArg Phase.state waits
      exact conduct_of_progress ⟨by simp [shown], by simp, rfl⟩ (by simp [shown]) nofun
  | refused error waits =>
      have shown : engine.state = .connecting := congrArg Phase.state waits
      exact conduct_lose listener (by simp [shown]) error.message
  | sent waits =>
      have shown : engine.state = .opened := congrArg Phase.state waits
      exact conduct_of_progress ⟨by simp [shown], rfl⟩ (by simp [shown]) nofun
  | sendFailed error waits =>
      have shown : engine.state = .opened := congrArg Phase.state waits
      exact conduct_of_progress shown (by simp [shown]) nofun
  | abandoned reason waits =>
      have shown : engine.state = .opened := congrArg Phase.state waits
      exact conduct_lose listener (by simp [shown]) reason
  | framed text waits => exact conduct_handFrame listener (congrArg Phase.state waits) text
  | completed reason waits =>
      have shown : engine.state = .streaming := congrArg Phase.state waits
      exact conduct_finish listener (by simp [shown]) .completed
  | lost reason waits =>
      have shown : engine.state = .streaming := congrArg Phase.state waits
      exact conduct_lose listener (by simp [shown]) reason
  | left waits =>
      have shown : engine.state = .streaming := congrArg Phase.state waits
      exact conduct_finish listener (by simp [shown]) .stopped
  | cancelled waits unwanted =>
      have unended : engine.state ≠ .closed := by
        obtain waits | waits := waits <;> simp [state, Phase.state, waits]
      exact conduct_finish listener unended .stopped
  | leaving waits unwanted =>
      have shown : engine.state = .streaming := congrArg Phase.state waits
      exact conduct_of_progress shown (by simp [shown]) nofun
  | unheard signal deaf => exact conduct_of_silent rfl rfl

theorem conduct_move (engine : Engine) (move : Move) :
    Conduct listener engine (engine.move listener move).1 (engine.move listener move).2 := by
  cases move with
  | signal token signal => exact conduct_step listener engine token signal
  | stop => exact conduct_of_silent (phase_stop engine) (everOpened_stop engine)
  | drop => exact conduct_of_silent rfl rfl

/-- Whatever happens to an engine, its states, its end and its reconnections are in order. -/
theorem conduct_run (engine : Engine) (moves : List Move) :
    Conduct listener engine (engine.run listener moves).1 (engine.run listener moves).2 := by
  induction moves generalizing engine with
  | nil => exact conduct_of_silent rfl rfl
  | cons first rest ih => exact (conduct_move listener engine first).append (ih _)

end Engine

end DocStore
