import DocStore.Proofs.Subscription.Cancellation

/-! # What passes over the connections of a subscription

Everything that an engine sends and takes, in order, falls into conversations, one for each
connection that opens. Each begins with the configuration, if there is one, and nothing else is
ever sent. A connection that could not take the configuration says nothing to the caller, and is a
lost one.
-/

namespace DocStore

/-- What passes over connections, and what the caller gets of it. -/
inductive Traffic where
  | opened
  /-- A frame is given to the connection. -/
  | sent (text : String)
  /-- The connection could not send it. -/
  | unsent (error : Error)
  | taken (event : ConnectionEvent)
  | delivered (item : Item)

@[simp] def Signal.traffic? : Signal → Option Traffic
  | .opened => some .opened
  | .sendFailed error => some (.unsent error)
  | .received event => some (.taken event)
  | .begin | .cancelled | .refused _ | .sent | .connectionClosed | .elapsed => none

@[simp] def Effect.traffic? : Effect → Option Traffic
  | .send text => some (.sent text)
  | .deliver item => some (.delivered item)
  | .enter _ | .readToken | .connect _ _ | .closeConnection | .sleep _ | .report _ => none

namespace Traffic

/-- Whether something comes from the peer, or goes to the caller. -/
def isInbound : Traffic → Bool
  | .taken _ | .delivered _ => true
  | .opened | .sent _ | .unsent _ => false

/-- What may pass over one connection. -/
inductive IsConversation (configuration : Option String) : List Traffic → Prop where
  /-- The configuration could not be sent, and that is all. -/
  | failed (text : String) (error : Error) (configured : configuration = some text) :
      IsConversation configuration [.opened, .sent text, .unsent error]
  /-- The configuration, if any, comes first, and then nothing is sent any more. -/
  | streamed (later : List Traffic) (inbound : ∀ entry ∈ later, entry.isInbound = true) :
      IsConversation configuration (.opened :: (configuration.toList.map .sent ++ later))

def AreConversations (configuration : Option String) (passed : List Traffic) : Prop :=
  ∃ conversations : List (List Traffic),
    (∀ conversation ∈ conversations, IsConversation configuration conversation) ∧
      passed = conversations.flatten

/-- What may pass over all connections of a subscription: without any, the caller may still be told
    about the first attempt. -/
inductive IsExchange (configuration : Option String) : List Traffic → Prop where
  | unopened (told : List Item) : IsExchange configuration (told.map .delivered)
  | opened {passed : List Traffic} (all : AreConversations configuration passed) :
      IsExchange configuration passed

variable {configuration : Option String} {passed : List Traffic}

theorem areConversations_nil : AreConversations configuration [] :=
  ⟨[], nofun, rfl⟩

theorem AreConversations.append_singleton (all : AreConversations configuration passed)
    {conversation : List Traffic} (last : IsConversation configuration conversation) :
    AreConversations configuration (passed ++ conversation) := by
  obtain ⟨conversations, each, rfl⟩ := all
  refine ⟨conversations ++ [conversation], ?_, by simp⟩
  exact List.forall_mem_append.mpr ⟨each, List.forall_mem_singleton.mpr last⟩

end Traffic

namespace Engine

open Traffic

/-- What passes because of one thing that happens: what the engine hears, and then what it does. -/
def moveTraffic (engine : Engine) (listener : Listener) (move : Move) : List Traffic :=
  (engine.heard listener [move]).filterMap Signal.traffic? ++
    (engine.move listener move).2.filterMap Effect.traffic?

def traffic (listener : Listener) (engine : Engine) : List Move → List Traffic
  | [] => []
  | first :: rest =>
      engine.moveTraffic listener first ++ traffic listener (engine.move listener first).1 rest

/-- What has passed once a connection has opened, by the phase of the engine: conversations that
    are over, and the beginning of one that goes on. -/
def Passed (configuration : Option String) (passed : List Traffic) : Phase → Prop
  | .idle => False
  | .configuring => ∃ past text, AreConversations configuration past ∧
      configuration = some text ∧ passed = past ++ [.opened, .sent text]
  | .streaming => ∃ past later, AreConversations configuration past ∧
      (∀ entry ∈ later, entry.isInbound = true) ∧
      passed = past ++ .opened :: (configuration.toList.map .sent ++ later)
  | .connecting | .abandoning _ | .leaving | .waiting | .closed _ =>
      AreConversations configuration passed

/-- How an engine stands, with what has passed so far. A URL that is found once is found again. -/
inductive Exchanged (listener : Listener) (engine : Engine) : List Traffic → Prop where
  | idle (waits : engine.phase = .idle) (never : engine.everOpened = false) :
      Exchanged listener engine []
  | connecting (waits : engine.phase = .connecting) (never : engine.everOpened = false)
      (found : ∃ token url, listener.url token = .ok url) : Exchanged listener engine []
  | unopened {reason : EndReason} (ended : engine.phase = .closed reason) (told : List Item) :
      Exchanged listener engine (told.map .delivered)
  | opened {passed : List Traffic} (ever : engine.everOpened = true)
      (found : ∃ token url, listener.url token = .ok url)
      (all : Passed listener.configuration passed engine.phase) :
      Exchanged listener engine passed

variable {listener : Listener} {engine : Engine} {passed : List Traffic}

/-- A conversation may end at any moment. -/
theorem Passed.areConversations {configuration : Option String} {phase : Phase}
    (all : Passed configuration passed phase) : AreConversations configuration passed := by
  cases phase with
  | idle => exact all.elim
  | configuring =>
      obtain ⟨past, text, each, rfl, rfl⟩ := all
      exact each.append_singleton (.streamed [] (List.forall_mem_nil _))
  | streaming =>
      obtain ⟨past, later, each, inbound, rfl⟩ := all
      exact each.append_singleton (.streamed later inbound)
  | connecting | abandoning | leaving | waiting | closed => exact all

theorem Passed.append_inbound {configuration : Option String} {entry : Traffic}
    (all : Passed configuration passed .streaming) (inbound : entry.isInbound = true) :
    Passed configuration (passed ++ [entry]) .streaming := by
  obtain ⟨past, later, each, quiet, rfl⟩ := all
  exact ⟨past, later ++ [entry], each,
    List.forall_mem_append.mpr ⟨quiet, List.forall_mem_singleton.mpr inbound⟩, by simp⟩

theorem Exchanged.isExchange (exchanged : Exchanged listener engine passed) :
    IsExchange listener.configuration passed := by
  cases exchanged with
  | idle | connecting => exact .opened areConversations_nil
  | unopened _ told => exact .unopened told
  | opened _ _ all => exact .opened all.areConversations

/-- An engine that waits for a connection has passed conversations only, if any. -/
theorem Exchanged.of_connecting (waits : engine.phase = .connecting)
    (exchanged : Exchanged listener engine passed) :
    (∃ token url, listener.url token = .ok url) ∧
      AreConversations listener.configuration passed := by
  cases exchanged with
  | idle idle => rw [waits] at idle; cases idle
  | connecting _ _ found => exact ⟨found, areConversations_nil⟩
  | unopened ended => rw [waits] at ended; cases ended
  | opened _ found all => exact ⟨found, all.areConversations⟩

theorem Exchanged.of_holdsConnection (exchanged : Exchanged listener engine passed) {phase : Phase}
    (waits : engine.phase = phase) (holds : phase.holdsConnection = true) :
    engine.everOpened = true ∧ (∃ token url, listener.url token = .ok url) ∧
      Passed listener.configuration passed phase := by
  subst waits
  cases exchanged with
  | idle waits | connecting waits | unopened waits => rw [waits] at holds; cases holds
  | opened ever found all => exact ⟨ever, found, all⟩

/-- Only the phase counts, and whether some connection has been open. -/
theorem Exchanged.of_same {other : Engine} (samePhase : other.phase = engine.phase)
    (sameOpened : other.everOpened = engine.everOpened)
    (exchanged : Exchanged listener engine passed) : Exchanged listener other passed := by
  cases exchanged with
  | idle waits never => exact .idle (samePhase.trans waits) (sameOpened.trans never)
  | connecting waits never found =>
      exact .connecting (samePhase.trans waits) (sameOpened.trans never) found
  | unopened ended told => exact .unopened (samePhase.trans ended) told
  | opened ever found all => exact .opened (sameOpened.trans ever) found (samePhase.symm ▸ all)

theorem exchanged_fail (engine : Engine) (item : Item) (reason : String) :
    Exchanged listener (engine.fail item reason).1
      ((engine.fail item reason).2.filterMap Effect.traffic?) := by
  dsimp only [fail, deliver]
  split
  next => exact .unopened rfl []
  next => exact .unopened rfl [item]

/-- A loss lets nothing pass once some connection has been open. -/
theorem exchanged_lose (ever : engine.everOpened = true)
    (found : ∃ token url, listener.url token = .ok url)
    (all : AreConversations listener.configuration passed) (reason : String) :
    Exchanged listener (engine.lose listener reason).1
      (passed ++ (engine.lose listener reason).2.filterMap Effect.traffic?) := by
  unfold lose
  split
  next never => rw [ever] at never; cases never
  next => split <;> exact (List.append_nil passed).symm ▸ .opened ever found all

theorem exchanged_attempt (starts : engine.phase = .idle ∨ engine.phase = .waiting)
    (exchanged : Exchanged listener engine passed) (token : Option String) :
    Exchanged listener (engine.attempt listener token).1
      (passed ++ (engine.attempt listener token).2.filterMap Effect.traffic?) := by
  unfold attempt
  cases exchanged with
  | idle _ never =>
      split
      next => exact .unopened rfl []
      next =>
          split
          next url found => exact .connecting rfl never ⟨token, url, found⟩
          next error _ => exact exchanged_fail engine (.error error) error.message
  | connecting waits | unopened waits =>
      obtain starts | starts := starts <;> (rw [waits] at starts; cases starts)
  | opened ever found all =>
      have past := all.areConversations
      rw [← List.append_nil passed] at past
      split
      next => exact .opened ever found past
      next =>
          split
          next => exact .opened ever found past
          next _ failed =>
              obtain ⟨_, _, foundOnce⟩ := found
              exact absurd failed (Listener.url_ne_error_of_ok foundOnce _)

theorem exchanged_handFrame (ever : engine.everOpened = true) (waits : engine.phase = .streaming)
    (found : ∃ token url, listener.url token = .ok url)
    (all : Passed listener.configuration passed .streaming) (text : String) :
    Exchanged listener (engine.handFrame listener text).1
      (passed ++ (engine.handFrame listener text).2.filterMap Effect.traffic?) := by
  have hands := handFrame_handing listener engine text
  generalize engine.handFrame listener text = handed at hands ⊢
  cases hands with
  | ignored => exact (List.append_nil passed).symm ▸ .opened ever found (waits ▸ all)
  | delivered => exact .opened ever found (waits ▸ all.append_inbound rfl)
  | undeliverable =>
      exact (List.append_nil passed).symm ▸ .opened ever found all.areConversations

theorem exchanged_step (exchanged : Exchanged listener engine passed) (token : Option String)
    (signal : Signal) :
    Exchanged listener (engine.step listener token signal).1
      (passed ++ engine.moveTraffic listener (.signal token signal)) := by
  have heard : engine.heard listener [.signal token signal] =
      if engine.phase.awaits signal then [signal] else [] := by
    simp [Engine.heard]
  rw [moveTraffic, heard, Engine.move]
  have reacts := step_reaction listener token engine signal
  generalize engine.step listener token signal = stepped at reacts ⊢
  cases reacts with
  | begun waits =>
      rw [waits]
      exact exchanged_attempt (.inl waits) exchanged token
  | elapsed waits =>
      rw [waits]
      exact exchanged_attempt (.inr waits) exchanged token
  | configuring text waits configured =>
      obtain ⟨found, past⟩ := exchanged.of_connecting waits
      rw [waits]
      exact .opened rfl found ⟨passed, text, past, configured, rfl⟩
  | unconfigured waits plain =>
      obtain ⟨found, past⟩ := exchanged.of_connecting waits
      rw [waits]
      refine .opened rfl found ⟨passed, [], past, List.forall_mem_nil _, ?_⟩
      rw [plain]
      rfl
  | refused error waits =>
      obtain ⟨found, past⟩ := exchanged.of_connecting waits
      rw [waits]
      cases ever : engine.everOpened with
      | true => exact exchanged_lose ever found past error.message
      | false =>
          -- Nothing can have passed before the first attempt, whose failure is the end.
          have gaveUp : engine.lose listener error.message =
              engine.fail (.error (.connectionFailed error.message)) error.message := by
            rw [lose, ever]
            rfl
          cases exchanged with
          | idle idle => rw [waits] at idle; cases idle
          | connecting =>
              rw [gaveUp]
              exact exchanged_fail engine _ error.message
          | unopened ended => rw [waits] at ended; cases ended
          | opened opened => rw [ever] at opened; cases opened
  | sent waits =>
      obtain ⟨ever, found, all⟩ := exchanged.of_holdsConnection waits rfl
      rw [waits]
      obtain ⟨past, text, each, configured, rfl⟩ := all
      refine .opened ever found ⟨past, [], each, List.forall_mem_nil _, ?_⟩
      rw [configured]
      simp [Phase.awaits]
  | sendFailed error waits =>
      obtain ⟨ever, found, all⟩ := exchanged.of_holdsConnection waits rfl
      rw [waits]
      obtain ⟨past, text, each, configured, rfl⟩ := all
      refine .opened ever found ?_
      rw [List.append_assoc]
      exact each.append_singleton (.failed text error configured)
  | abandoned reason waits =>
      obtain ⟨ever, found, all⟩ := exchanged.of_holdsConnection waits rfl
      rw [waits]
      exact exchanged_lose ever found all reason
  | framed text waits =>
      obtain ⟨ever, found, all⟩ := exchanged.of_holdsConnection waits rfl
      rw [waits]
      have taken : Passed listener.configuration (passed ++ [.taken (.frame text)]) .streaming :=
        all.append_inbound rfl
      have handed := exchanged_handFrame ever waits found taken text
      rwa [List.append_assoc] at handed
  | completed reason waits =>
      obtain ⟨ever, found, all⟩ := exchanged.of_holdsConnection waits rfl
      rw [waits]
      have taken : Passed listener.configuration (passed ++ [.taken (.closed false reason)])
          .streaming := all.append_inbound rfl
      exact .opened ever found taken.areConversations
  | lost reason waits =>
      obtain ⟨ever, found, all⟩ := exchanged.of_holdsConnection waits rfl
      rw [waits]
      have taken : Passed listener.configuration (passed ++ [.taken (.closed true reason)])
          .streaming := all.append_inbound rfl
      have lost := exchanged_lose ever found taken.areConversations reason
      rwa [List.append_assoc] at lost
  | left waits =>
      obtain ⟨ever, found, all⟩ := exchanged.of_holdsConnection waits rfl
      rw [waits]
      exact (List.append_nil passed).symm ▸ .opened ever found all
  | cancelled waits =>
      have deaf : engine.phase.awaits .cancelled = false := by
        obtain waits | waits := waits <;> (rw [waits]; rfl)
      rw [deaf]
      cases exchanged with
      | idle idle => obtain waits | waits := waits <;> (rw [waits] at idle; cases idle)
      | connecting => exact .unopened rfl []
      | unopened _ told => exact (List.append_nil _).symm ▸ .unopened rfl told
      | opened ever found all =>
          exact (List.append_nil passed).symm ▸ .opened ever found all.areConversations
  | leaving waits =>
      obtain ⟨ever, found, all⟩ := exchanged.of_holdsConnection waits rfl
      rw [waits]
      exact (List.append_nil passed).symm ▸ .opened ever found all.areConversations
  | unheard _ deaf =>
      rw [deaf]
      exact (List.append_nil passed).symm ▸ exchanged

theorem exchanged_move (exchanged : Exchanged listener engine passed) (move : Move) :
    Exchanged listener (engine.move listener move).1
      (passed ++ engine.moveTraffic listener move) := by
  cases move with
  | signal token signal => exact exchanged_step exchanged token signal
  | stop =>
      exact (List.append_nil passed).symm ▸
        exchanged.of_same (phase_stop engine) (everOpened_stop engine)
  | drop =>
      have same : engine.drop.phase = engine.phase := rfl
      exact (List.append_nil passed).symm ▸ exchanged.of_same same rfl

/-- Whatever happens to an engine, what passes stays an exchange. -/
theorem exchanged_run (exchanged : Exchanged listener engine passed) (moves : List Move) :
    Exchanged listener (engine.run listener moves).1
      (passed ++ engine.traffic listener moves) := by
  induction moves generalizing engine passed with
  | nil => exact (List.append_nil passed).symm ▸ exchanged
  | cons first rest ih =>
      have next := ih (exchanged_move exchanged first)
      rwa [List.append_assoc] at next

theorem isExchange_run (listener : Listener) (moves : List Move) :
    IsExchange listener.configuration (initial.traffic listener moves) :=
  (exchanged_run (.idle rfl rfl) moves).isExchange

/-! ## A configuration that cannot be sent -/

theorem stop_withPhase (engine : Engine) (phase : Phase) :
    ({ engine with phase := phase } : Engine).stop = { engine.stop with phase := phase } := by
  dsimp only [stop]
  split <;> rfl

/-- While a connection without its configuration is being closed, only the caller's acts count. -/
theorem run_abandoning {reason : String} (waits : engine.phase = .abandoning reason)
    {between : List Move}
    (unclosed : ∀ token, .signal token .connectionClosed ∉ between) (token : Option String) :
    engine.run listener (between ++ [.signal token .connectionClosed]) =
      ({ engine with phase := .streaming } : Engine).run listener
        (between.filter (!·.isSignal) ++ [.signal token (.received (.closed true reason))]) := by
  induction between generalizing engine with
  | nil =>
      obtain ⟨phase, caller, everOpened, losses⟩ := engine
      cases waits
      rfl
  | cons first rest ih =>
      have restUnclosed : ∀ token, .signal token .connectionClosed ∉ rest :=
        fun token mem => unclosed token (.tail _ mem)
      cases first with
      | signal given signal =>
          have deaf : engine.phase.awaits signal = false := by
            rw [waits]
            cases signal with
            | connectionClosed => exact absurd (.head _) (unclosed given)
            | _ => rfl
          have ignored : engine.move listener (.signal given signal) = (engine, []) :=
            step_of_deaf deaf (.inl (by rw [waits]; rfl))
          rw [List.cons_append, run_cons ignored (ih waits restUnclosed)]
          rfl
      | stop =>
          have stays : engine.stop.phase = .abandoning reason := (phase_stop engine).trans waits
          have stopped : engine.move listener .stop = (engine.stop, []) := rfl
          rw [List.cons_append, run_cons stopped (ih stays restUnclosed), ← stop_withPhase]
          rfl
      | drop =>
          have dropped : engine.move listener .drop = (engine.drop, []) := rfl
          have stays : engine.drop.phase = .abandoning reason := waits
          rw [List.cons_append, run_cons dropped (ih stays restUnclosed)]
          rfl

/-- A configuration that cannot be sent is a loss like another of a connection that was open, after
    this connection is closed. Until then, only the caller's own acts count. -/
def LosesUnsent (listener : Listener) (engine : Engine) : Prop :=
  engine.everOpened = true ∧
    ∀ (error : Error) (between : List Move) (first last : Option String),
      (∀ token, .signal token .connectionClosed ∉ between) →
      let lost := ({ engine with phase := .streaming } : Engine).run listener
        (between.filter (!·.isSignal) ++ [.signal last (.received (.closed true error.message))])
      engine.run listener
          (.signal first (.sendFailed error) :: (between ++ [.signal last .connectionClosed])) =
        (lost.1, .closeConnection :: lost.2)

theorem losesUnsent (waits : engine.phase = .configuring) (held : engine.HasOpened) :
    engine.LosesUnsent listener := by
  refine ⟨held (by rw [waits]; rfl), fun error between first last unclosed => ?_⟩
  have abandons : engine.move listener (.signal first (.sendFailed error)) =
      ({ engine with phase := .abandoning error.message }, [.closeConnection]) := by
    rw [Engine.move, step.eq_def, waits]
  exact run_cons abandons (run_abandoning rfl unclosed last)

end Engine

end DocStore
