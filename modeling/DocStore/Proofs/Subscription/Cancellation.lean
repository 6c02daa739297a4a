import DocStore.Proofs.Subscription.Ending

/-! # Stopping a subscription

What becomes of an engine whose caller no longer listens. It makes no connection attempt any more,
whatever still happens to it. How it ends depends on where it waits: some waits look out for the
caller's wish, while a configuration that is being sent and a connection that is being closed have
to come to their end first. A result that is taken up before the wish is noticed still counts.
-/

namespace DocStore

@[simp] theorem attemptsOf_append (first second : List Effect) :
    attemptsOf (first ++ second) = attemptsOf first ++ attemptsOf second :=
  List.filterMap_append

/-- Whether what happens is a result of what an engine waits for in a phase: of connecting,
    sending, receiving or closing, or the end of a delay. That the engine is run for the first
    time is none. -/
def Move.isResultIn (phase : Phase) : Move → Bool
  | .signal _ given => phase.awaits given && given != .begin
  | .stop | .drop => false

def Phase.holdsConnection : Phase → Bool
  | .configuring | .abandoning _ | .streaming | .leaving => true
  | .idle | .connecting | .waiting | .closed _ => false

namespace Engine

variable {engine : Engine} {listener : Listener}

theorem attempt_of_unwanted (unwanted : engine.isUnwanted = true) (token : Option String) :
    engine.attempt listener token = engine.finish .stopped := by
  rw [attempt, if_pos unwanted]

theorem isUnwanted_move (unwanted : engine.isUnwanted = true) (move : Move) :
    (engine.move listener move).1.isUnwanted = true := by
  cases move with
  | signal token signal => rwa [isUnwanted, Engine.move, caller_step]
  | stop =>
      dsimp only [Engine.move, stop]
      split
      next => exact unwanted
      next => rfl
  | drop => rfl

theorem isUnwanted_of_halt (listener : Listener) {halt : Move} (halts : halt.isSignal = false)
    (engine : Engine) :
    (engine.move listener halt).1.isUnwanted = true := by
  cases halt with
  | signal token signal => cases halts
  | stop =>
      dsimp only [Engine.move, stop]
      split
      next gone => simp [isUnwanted, gone]
      next => rfl
  | drop => rfl

/-! ## No attempt is made any more -/

theorem attemptsOf_fail (item : Item) (reason : String) :
    attemptsOf (engine.fail item reason).2 = [] := by
  dsimp only [fail, deliver]
  split <;> rfl

theorem attemptsOf_lose (reason : String) : attemptsOf (engine.lose listener reason).2 = [] := by
  unfold lose
  split
  next => exact attemptsOf_fail ..
  next => split <;> rfl

theorem attemptsOf_handFrame (text : String) :
    attemptsOf (engine.handFrame listener text).2 = [] := by
  have hands := handFrame_handing listener engine text
  generalize engine.handFrame listener text = handed at hands ⊢
  cases hands <;> rfl

/-- Only the start of an attempt connects, and it looks for the caller's wish first. -/
theorem attemptsOf_step_of_unwanted (unwanted : engine.isUnwanted = true) (token : Option String)
    (signal : Signal) : attemptsOf (engine.step listener token signal).2 = [] := by
  have reacts := step_reaction listener token engine signal
  generalize engine.step listener token signal = stepped at reacts ⊢
  cases reacts with
  | begun | elapsed =>
      rw [attempt_of_unwanted unwanted]
      rfl
  | refused | abandoned | lost => exact attemptsOf_lose _
  | framed => exact attemptsOf_handFrame _
  | configuring | unconfigured | sent | sendFailed | completed | left | cancelled | leaving
  | unheard => rfl

theorem attemptsOf_run_of_unwanted (unwanted : engine.isUnwanted = true) (moves : List Move) :
    attemptsOf (engine.run listener moves).2 = [] := by
  induction moves generalizing engine with
  | nil => rfl
  | cons first rest ih =>
      have now : attemptsOf (engine.move listener first).2 = [] := by
        cases first with
        | signal token signal => exact attemptsOf_step_of_unwanted unwanted token signal
        | stop | drop => rfl
      rw [run, attemptsOf_append, now, ih (isUnwanted_move unwanted first)]
      rfl

/-- The attempts of a subscription are those that were made before the caller stopped it or
    dropped its handle, whatever happened before and whatever happens afterwards. -/
theorem attemptsOf_run_halted (listener : Listener) (before later : List Move) (halt : Move)
    (halts : halt.isSignal = false) :
    attemptsOf (initial.run listener (before ++ halt :: later)).2 =
      attemptsOf (initial.run listener before).2 := by
  generalize reached : initial.run listener before = begun
  obtain ⟨next, moved⟩ : ∃ next, begun.1.move listener halt = (next, []) := by
    cases halt with
    | signal token signal => cases halts
    | stop | drop => exact ⟨_, rfl⟩
  have unwanted : next.isUnwanted = true := by
    have halted := isUnwanted_of_halt listener halts begun.1
    rwa [moved] at halted
  rw [run_append reached (run_cons moved rfl), List.nil_append, attemptsOf_append,
    attemptsOf_run_of_unwanted unwanted, List.append_nil]

/-- A connection opens and is lost although the caller has stopped, and the delay is over: there is
    no second attempt. -/
theorem attemptsOf_run_halted_persistentListener :
    let before := [.signal none .begin]
    let later := [.opened, .received (.closed true "gone"), .elapsed].map (.signal none)
    Move.stop.isSignal = false ∧
      (attemptsOf (initial.run persistentListener (before ++ .stop :: later)).2).length = 1 := by
  intro before later
  have same := attemptsOf_run_halted persistentListener before later .stop rfl
  exact ⟨rfl, same ▸ rfl⟩

/-! ## How it ends

A state `leads to` a reason when some moves end the subscription for it.
-/

def LeadsTo (listener : Listener) (engine : Engine) (reason : EndReason) : Prop :=
  ∃ moves, (engine.run listener moves).1.phase = .closed reason

/-- The subscription can end as stopped without a result of what the engine waits for. -/
def CanLeave (listener : Listener) (engine : Engine) : Prop :=
  ∃ moves, (∀ move ∈ moves, move.isResultIn engine.phase = false) ∧
    (engine.run listener moves).1.phase = .closed .stopped

/-- The wish of a caller that no longer listens takes effect: the engine need not go on waiting,
    and no result that still arrives gives the end another reason. -/
structure StopTakesEffect (listener : Listener) (engine : Engine) : Prop where
  leaves : engine.CanLeave listener
  only : ∀ reason, engine.LeadsTo listener reason → reason = .stopped

/-- The reasons that remain once a connection is open: a loss counts only for a listener that does
    not reconnect. -/
def RemainsOpen (autoReconnect : Bool) (reason : EndReason) : Prop :=
  reason = .stopped ∨ reason = .completed ∨
    autoReconnect = false ∧ ∃ text, reason = .disconnected text

/-- The reasons that remain for the end of a subscription whose caller no longer listens. -/
def Remains (listener : Listener) (engine : Engine) (reason : EndReason) : Prop :=
  match engine.phase with
  | .idle | .leaving | .waiting => reason = .stopped
  | .connecting =>
      RemainsOpen listener.autoReconnect reason ∨
        engine.everOpened = false ∧ ∃ error : Error, reason = .connectionFailed error.message
  | .configuring | .streaming => RemainsOpen listener.autoReconnect reason
  | .abandoning text =>
      if listener.autoReconnect then reason = .stopped else reason = .disconnected text
  | .closed ended => reason = ended

/-- A connection that is open has been opened. -/
def HasOpened (engine : Engine) : Prop :=
  engine.phase.holdsConnection = true → engine.everOpened = true

variable {reason : EndReason}

theorem hasOpened_step (held : engine.HasOpened) (token : Option String) (signal : Signal) :
    (engine.step listener token signal).1.HasOpened := by
  have reacts := step_reaction listener token engine signal
  generalize engine.step listener token signal = stepped at reacts ⊢
  unfold HasOpened at held ⊢
  cases reacts with
  | begun | elapsed =>
      unfold attempt
      split
      next => nofun
      next => split <;> nofun
  | configuring | unconfigured => exact fun _ => rfl
  | refused | abandoned | lost =>
      unfold lose
      split
      next => nofun
      next => split <;> nofun
  | sent waits | sendFailed _ waits | leaving waits => exact fun _ => held (by rw [waits]; rfl)
  | framed text waits =>
      have opened : engine.everOpened = true := held (by rw [waits]; rfl)
      have hands := handFrame_handing listener engine text
      generalize engine.handFrame listener text = handed at hands ⊢
      cases hands <;> exact fun _ => opened
  | completed | left | cancelled => nofun
  | unheard => exact held

theorem hasOpened_move (held : engine.HasOpened) (move : Move) :
    (engine.move listener move).1.HasOpened := by
  cases move with
  | signal token signal => exact hasOpened_step held token signal
  | stop =>
      dsimp only [Engine.move, stop]
      split <;> exact held
  | drop => exact held

theorem hasOpened_run (held : engine.HasOpened) (moves : List Move) :
    (engine.run listener moves).1.HasOpened := by
  induction moves generalizing engine with
  | nil => exact held
  | cons first rest ih => exact ih (hasOpened_move held first)

/-- What a loss leaves, for an engine that no reconnection can help any more. -/
theorem remains_lose (opened : engine.everOpened = true) {text : String} :
    (engine.lose listener text).1.Remains listener reason ↔
      if listener.autoReconnect then reason = .stopped else reason = .disconnected text := by
  cases again : listener.autoReconnect <;> simp [lose, opened, again, Remains, finish]

theorem remainsOpen_of_lose (opened : engine.everOpened = true) {text : String}
    (remains : (engine.lose listener text).1.Remains listener reason) :
    RemainsOpen listener.autoReconnect reason := by
  rw [remains_lose opened] at remains
  cases again : listener.autoReconnect with
  | true => exact .inl (by simpa [again] using remains)
  | false => exact .inr (.inr ⟨rfl, text, by simpa [again] using remains⟩)

/-- No step brings back a reason that has been ruled out. -/
theorem remains_of_step (unwanted : engine.isUnwanted = true) (held : engine.HasOpened)
    {token : Option String} {signal : Signal}
    (remains : (engine.step listener token signal).1.Remains listener reason) :
    engine.Remains listener reason := by
  have reacts := step_reaction listener token engine signal
  generalize engine.step listener token signal = stepped at reacts remains
  cases reacts with
  | begun waits | elapsed waits =>
      rw [attempt_of_unwanted unwanted] at remains
      rw [Remains, waits]
      exact remains
  | configuring text waits =>
      rw [Remains, waits]
      exact .inl remains
  | unconfigured waits =>
      rw [Remains, waits]
      exact .inl remains
  | refused error waits =>
      rw [Remains, waits]
      cases opened : engine.everOpened with
      | true => exact .inl (remainsOpen_of_lose opened remains)
      | false =>
          rw [lose, opened] at remains
          exact .inr ⟨rfl, error, remains⟩
  | sent waits =>
      rw [Remains, waits]
      exact remains
  | sendFailed error waits =>
      have opened : engine.everOpened = true := held (by rw [waits]; rfl)
      rw [Remains, waits]
      exact remainsOpen_of_lose opened ((remains_lose opened).mpr remains)
  | abandoned text waits =>
      have opened : engine.everOpened = true := held (by rw [waits]; rfl)
      rw [Remains, waits]
      exact (remains_lose opened).mp remains
  | framed text waits =>
      have hands := handFrame_handing listener engine text
      generalize engine.handFrame listener text = handed at hands remains
      cases hands with
      | ignored | delivered => exact remains
      | undeliverable =>
          rw [Remains, waits]
          exact .inl remains
  | completed text waits =>
      rw [Remains, waits]
      exact .inr (.inl remains)
  | lost text waits =>
      have opened : engine.everOpened = true := held (by rw [waits]; rfl)
      rw [Remains, waits]
      exact remainsOpen_of_lose opened remains
  | left waits =>
      rw [Remains, waits]
      exact remains
  | cancelled waits =>
      obtain waits | waits := waits <;> rw [Remains, waits]
      · exact .inl (.inl remains)
      · exact remains
  | leaving waits =>
      rw [Remains, waits]
      exact .inl remains
  | unheard => exact remains

theorem remains_of_move (unwanted : engine.isUnwanted = true) (held : engine.HasOpened)
    {move : Move} (remains : (engine.move listener move).1.Remains listener reason) :
    engine.Remains listener reason := by
  cases move with
  | signal token signal => exact remains_of_step unwanted held remains
  | stop =>
      dsimp only [Engine.move, stop] at remains
      split at remains <;> exact remains
  | drop => exact remains

theorem remains_of_leadsTo (unwanted : engine.isUnwanted = true) (held : engine.HasOpened)
    (leads : engine.LeadsTo listener reason) : engine.Remains listener reason := by
  obtain ⟨moves, ended⟩ := leads
  induction moves generalizing engine with
  | nil =>
      rw [run] at ended
      rw [Remains, ended]
  | cons first rest ih =>
      exact remains_of_move unwanted held
        (ih (isUnwanted_move unwanted first) (hasOpened_move held first) ended)

/-! ## Every remaining reason can come about -/

theorem LeadsTo.of_step (signal : Signal) {next : Engine}
    (stepped : (engine.step listener none signal).1 = next)
    (leads : next.LeadsTo listener reason) : engine.LeadsTo listener reason := by
  obtain ⟨later, ended⟩ := leads
  refine ⟨.signal none signal :: later, ?_⟩
  rwa [run_cons_fst, Engine.move, stepped]

theorem leadsTo_of_closed (ended : engine.phase = .closed reason) :
    engine.LeadsTo listener reason :=
  ⟨[], ended⟩

theorem leadsTo_of_streaming (waits : engine.phase = .streaming)
    (unwanted : engine.isUnwanted = true) (opened : engine.everOpened = true)
    (remains : RemainsOpen listener.autoReconnect reason) : engine.LeadsTo listener reason := by
  obtain rfl | rfl | ⟨once, text, rfl⟩ := remains
  · have leaves : (engine.step listener none .cancelled).1 = { engine with phase := .leaving } := by
      simp [step, waits, unwanted]
    exact .of_step _ leaves (.of_step .connectionClosed rfl (leadsTo_of_closed rfl))
  · refine .of_step (.received (.closed false "")) rfl (leadsTo_of_closed ?_)
    simp [step, waits, finish]
  · refine .of_step (.received (.closed true text)) rfl (leadsTo_of_closed ?_)
    simp [step, waits, lose, opened, once, finish]

theorem leadsTo_of_configuring (waits : engine.phase = .configuring)
    (unwanted : engine.isUnwanted = true) (opened : engine.everOpened = true)
    (remains : RemainsOpen listener.autoReconnect reason) : engine.LeadsTo listener reason := by
  have sent : (engine.step listener none .sent).1 = { engine with phase := .streaming } := by
    simp [step, waits]
  exact .of_step _ sent (leadsTo_of_streaming rfl unwanted opened remains)

theorem leadsTo_of_waiting (waits : engine.phase = .waiting) (unwanted : engine.isUnwanted = true) :
    engine.LeadsTo listener .stopped := by
  refine .of_step .cancelled rfl (leadsTo_of_closed ?_)
  simp [step, waits, unwanted, finish]

theorem leadsTo_of_connecting (waits : engine.phase = .connecting)
    (unwanted : engine.isUnwanted = true) (remains : engine.Remains listener reason) :
    engine.LeadsTo listener reason := by
  rw [Remains, waits] at remains
  obtain remains | ⟨unopened, error, rfl⟩ := remains
  · cases configured : listener.configuration with
    | none =>
        have opens : (engine.step listener none .opened).1 =
            { engine with phase := .streaming, everOpened := true } := by
          simp [step, waits, configured]
        exact .of_step _ opens (leadsTo_of_streaming rfl unwanted rfl remains)
    | some text =>
        have opens : (engine.step listener none .opened).1 =
            { engine with phase := .configuring, everOpened := true } := by
          simp [step, waits, configured]
        exact .of_step _ opens (leadsTo_of_configuring rfl unwanted rfl remains)
  · refine .of_step (.refused error) rfl (leadsTo_of_closed ?_)
    simp [step, waits, lose, unopened, fail, finish]

theorem leadsTo_of_abandoning {text : String} (waits : engine.phase = .abandoning text)
    (unwanted : engine.isUnwanted = true) (opened : engine.everOpened = true)
    (remains : engine.Remains listener reason) : engine.LeadsTo listener reason := by
  rw [Remains, waits] at remains
  cases again : listener.autoReconnect with
  | true =>
      have lost : (engine.step listener none .connectionClosed).1 =
          { engine with phase := .waiting, losses := engine.losses + 1 } := by
        simp [step, waits, lose, opened, again]
      simp only [again, if_true] at remains
      exact remains ▸ .of_step _ lost (leadsTo_of_waiting rfl unwanted)
  | false =>
      refine .of_step .connectionClosed rfl (leadsTo_of_closed ?_)
      simp only [again, Bool.false_eq_true, if_false] at remains
      simp [step, waits, lose, opened, again, finish, remains]

theorem leadsTo_iff_remains (unwanted : engine.isUnwanted = true) (held : engine.HasOpened) :
    engine.LeadsTo listener reason ↔ engine.Remains listener reason := by
  refine ⟨remains_of_leadsTo unwanted held, fun remains => ?_⟩
  cases waits : engine.phase with
  | idle =>
      rw [Remains, waits] at remains
      refine .of_step .begin rfl (leadsTo_of_closed ?_)
      simp [step, waits, attempt_of_unwanted unwanted, finish, remains]
  | connecting => exact leadsTo_of_connecting waits unwanted remains
  | configuring =>
      rw [Remains, waits] at remains
      exact leadsTo_of_configuring waits unwanted (held (by rw [waits]; rfl)) remains
  | abandoning text =>
      exact leadsTo_of_abandoning waits unwanted (held (by rw [waits]; rfl)) remains
  | streaming =>
      rw [Remains, waits] at remains
      exact leadsTo_of_streaming waits unwanted (held (by rw [waits]; rfl)) remains
  | leaving =>
      rw [Remains, waits] at remains
      refine .of_step .connectionClosed rfl (leadsTo_of_closed ?_)
      simp [step, waits, finish, remains]
  | waiting =>
      rw [Remains, waits] at remains
      exact remains ▸ leadsTo_of_waiting waits unwanted
  | closed ended =>
      rw [Remains, waits] at remains
      exact leadsTo_of_closed (remains ▸ waits)

/-! ## What can be left at once -/

/-- Where nothing looks out for the caller's wish, only a result ends the wait. -/
theorem phase_run_of_blocked (blocked : engine.phase.isCancellable = false) {moves : List Move}
    (resultless : ∀ move ∈ moves, move.isResultIn engine.phase = false) :
    (engine.run listener moves).1.phase = engine.phase := by
  induction moves generalizing engine with
  | nil => rfl
  | cons first rest ih =>
      obtain ⟨noResult, restResultless⟩ := List.forall_mem_cons.mp resultless
      have stays : (engine.move listener first).1.phase = engine.phase := by
        cases first with
        | signal token signal =>
            have deaf : engine.phase.awaits signal = false := by
              rw [Move.isResultIn, Bool.and_eq_false_iff] at noResult
              obtain deaf | first := noResult
              · exact deaf
              · -- No phase but the idle one waits to be run for the first time.
                rw [bne_eq_false_iff_eq] at first
                subst first
                cases waits : engine.phase with
                | idle => rw [waits] at blocked; cases blocked
                | _ => rfl
            rw [Engine.move, step_of_deaf deaf (.inl blocked)]
        | stop => exact phase_stop engine
        | drop => rfl
      rw [run_cons_fst, ← stays]
      exact ih (by rwa [stays]) (by rwa [stays])

theorem canLeave_iff (unwanted : engine.isUnwanted = true) (unended : engine.state ≠ .closed) :
    engine.CanLeave listener ↔ engine.phase.isCancellable = true := by
  constructor
  · rintro ⟨moves, resultless, ended⟩
    refine Bool.of_not_eq_false fun blocked => ?_
    rw [phase_run_of_blocked blocked resultless] at ended
    exact unended (congrArg Phase.state ended)
  · intro cancellable
    cases waits : engine.phase with
    | idle =>
        refine ⟨[.signal none .begin], by simp [Move.isResultIn], ?_⟩
        simp [run, Engine.move, step, waits, attempt_of_unwanted unwanted, finish]
    | connecting | waiting =>
        refine ⟨[.signal none .cancelled], by simp [Move.isResultIn, waits, Phase.awaits], ?_⟩
        simp [run, Engine.move, step, waits, unwanted, finish]
    | streaming =>
        refine ⟨[.signal none .cancelled, .signal none .connectionClosed],
          by simp [Move.isResultIn, waits, Phase.awaits], ?_⟩
        simp [run, Engine.move, step, waits, unwanted, finish]
    | configuring | abandoning | leaving | closed => rw [waits] at cancellable; cases cancellable

theorem stopTakesEffect_iff (unwanted : engine.isUnwanted = true) (held : engine.HasOpened)
    (unended : engine.state ≠ .closed) :
    engine.StopTakesEffect listener ↔ engine.phase = .idle ∨ engine.phase = .waiting := by
  constructor
  · rintro ⟨leaves, only⟩
    rw [canLeave_iff unwanted unended] at leaves
    -- An open connection, or one that may still open, can complete.
    have incomplete : ¬ engine.Remains listener .completed := fun remains =>
      nomatch only .completed ((leadsTo_iff_remains unwanted held).mpr remains)
    have canComplete : RemainsOpen listener.autoReconnect .completed := .inr (.inl rfl)
    cases waits : engine.phase with
    | idle => exact .inl rfl
    | waiting => exact .inr rfl
    | connecting =>
        rw [Remains, waits] at incomplete
        exact absurd (.inl canComplete) incomplete
    | streaming =>
        rw [Remains, waits] at incomplete
        exact absurd canComplete incomplete
    | configuring | abandoning | leaving | closed => rw [waits] at leaves; cases leaves
  · intro quiet
    refine ⟨(canLeave_iff unwanted unended).mpr ?_, fun reason leads => ?_⟩
    · obtain waits | waits := quiet <;> rw [waits] <;> rfl
    · have remains := remains_of_leadsTo unwanted held leads
      obtain waits | waits := quiet <;> (rw [Remains, waits] at remains; exact remains)

/-- What a stop, or dropping the handle, leads to at any moment before the end. It takes effect
    without fail where nothing is being done over the network. The end can be reached without a
    result of what is being waited for unless a configuration is being sent or a connection is being
    closed. And the reasons that remain are exactly these. -/
theorem halt_outcomes (listener : Listener) (moves : List Move) (halt : Move)
    (halts : halt.isSignal = false) :
    let engine := (initial.run listener (moves ++ [halt])).1
    engine.state ≠ .closed →
      (engine.StopTakesEffect listener ↔ engine.phase = .idle ∨ engine.phase = .waiting) ∧
      (engine.CanLeave listener ↔ engine.phase.isCancellable = true) ∧
      ∀ reason, engine.LeadsTo listener reason ↔ engine.Remains listener reason := by
  intro engine unended
  have nothingOpen : initial.HasOpened := fun holds => nomatch holds
  have held : engine.HasOpened := hasOpened_run nothingOpen _
  have unwanted : engine.isUnwanted = true := by
    have ran : initial.run listener (moves ++ [halt]) = _ := run_append rfl (run_singleton halt)
    rw [show engine = _ from congrArg Prod.fst ran]
    exact isUnwanted_of_halt listener halts _
  exact ⟨stopTakesEffect_iff unwanted held unended, canLeave_iff unwanted unended,
    fun reason => leadsTo_iff_remains unwanted held⟩

/-- A subscription that is stopped between two attempts ends as stopped, whatever comes. -/
theorem halt_outcomes_betweenAttempts :
    let moves := [.begin, .opened, .received (.closed true "gone")].map (.signal none)
    let engine := (initial.run persistentListener (moves ++ [.stop])).1
    Move.stop.isSignal = false ∧ engine.state ≠ .closed ∧
      engine.StopTakesEffect persistentListener := by
  intro moves engine
  have unended : engine.state ≠ .closed := by decide
  exact ⟨rfl, unended, (halt_outcomes persistentListener moves .stop rfl unended).1.mpr (.inr rfl)⟩

/-- A stop has no effect while a configuration is being sent: nothing but the result of sending
    ends that wait. If that is a failure, the end of a subscription that does not reconnect is the
    loss of its connection, and never the stop. -/
theorem stop_unheard_while_sending :
    let configured := { transientListener with configuration := some "\x7b\x7d" }
    let sending := (initial.run configured [.signal none .begin, .signal none .opened, .stop]).1
    (∀ moves, (∀ move ∈ moves, move.isResultIn .configuring = false) →
        (sending.run configured moves).1.phase = .configuring) ∧
      (∀ error reason, (sending.run configured [.signal none (.sendFailed error)]).1.LeadsTo
        configured reason ↔ reason = .disconnected error.message) ∧
      ¬ sending.StopTakesEffect configured := by
  intro configured sending
  have blocked : ∀ moves, (∀ move ∈ moves, move.isResultIn .configuring = false) →
      (sending.run configured moves).1.phase = .configuring :=
    fun _ resultless => (phase_run_of_blocked rfl resultless : _ = sending.phase)
  refine ⟨blocked, fun error reason => ?_, fun takesEffect => ?_⟩
  · exact leadsTo_iff_remains rfl fun _ => rfl
  · obtain ⟨moves, resultless, ended⟩ := takesEffect.leaves
    cases (blocked moves resultless).symm.trans ended

end Engine

end DocStore
