import DocStore.Proofs.Subscription.Conduct
import DocStore.Proofs.Subscription.Script

/-! # Why a subscription ends

As long as the caller keeps listening, the signals that an engine was waiting for decide whether
the subscription has ended, and why.
-/

namespace DocStore

/-- Whether what happens is a signal, and not an act of the caller. -/
def Move.isSignal : Move → Bool
  | .signal _ _ => true
  | .stop | .drop => false

/-- The reason of a signal that tells of a loss: an open connection closes abnormally, or its
    configuration cannot be sent. -/
def Signal.loss? : Signal → Option String
  | .received (.closed true reason) => some reason
  | .sendFailed error => some error.message
  | _ => none

/-- The connection attempt that an effect makes, by its URL and token. -/
@[simp] def Effect.attempt? : Effect → Option (Url × Option String)
  | .connect url token => some (url, token)
  | .enter _ | .readToken | .send _ | .closeConnection | .deliver _ | .sleep _ | .report _ => none

/-- The connection attempts that are made, in order. -/
def attemptsOf (effects : List Effect) : List (Url × Option String) :=
  effects.filterMap Effect.attempt?

/-- What is done about a first attempt that does not open: there is no other one, and the caller
    gets nothing but its error. -/
structure GivesUp (effects : List Effect) (error : Error) : Prop where
  states : statesOf effects = [.connecting, .closed]
  attempts : (attemptsOf effects).length ≤ 1
  items : itemsOf effects = [.error error]

/-- The first attempt does not open: the caller gets this error, and the end has this reason. -/
inductive FirstAttemptFails (listener : Listener) : List Signal → Error → String → Prop where
  | unaddressed {token : Option String} {error : Error} (failed : listener.url token = .error error)
      (later : List Signal) : FirstAttemptFails listener (.begin :: later) error error.message
  | refused {token : Option String} {url : Url} (found : listener.url token = .ok url)
      (error : Error) (later : List Signal) :
      FirstAttemptFails listener (.begin :: .refused error :: later)
        (.connectionFailed error.message) error.message

/-- A connection is lost, and is closed. -/
inductive IsLoss : List Signal → String → Prop where
  | closed (reason : String) : IsLoss [.received (.closed true reason)] reason
  | unconfigured (error : Error) : IsLoss [.sendFailed error, .connectionClosed] error.message

/-- The first connection opens and is lost, for this reason. -/
def FirstConnectionIsLost (heard : List Signal) (reason : String) : Prop :=
  ∃ quiet loss, heard = .begin :: .opened :: (quiet ++ loss) ∧ quiet.filterMap Signal.loss? = [] ∧
    IsLoss loss reason

/-- Some connection closes normally. -/
def SomeConnectionCompletes (heard : List Signal) : Prop :=
  ∃ reason, .received (.closed false reason) ∈ heard

namespace Listener

variable {listener : Listener}

theorem url_eq_error_iff {token : Option String} {error : Error} :
    listener.url token = .error error ↔
      listener.baseUrl.endpoint listenSegment listener.reference = .error error := by
  unfold url Url.listening
  cases listener.baseUrl.endpoint listenSegment listener.reference with
  | error other => exact Iff.rfl
  | ok url => constructor <;> (intro impossible; cases impossible)

theorem url_ne_error_of_ok {token other : Option String} {url : Url}
    (found : listener.url token = .ok url) (error : Error) : listener.url other ≠ .error error := by
  intro failed
  obtain ⟨_, foundSo⟩ := exists_url_of_exists_url ⟨_, found⟩
  cases failed.symm.trans foundSo

end Listener

theorem FirstAttemptFails.unique {listener : Listener} {heard : List Signal} {error other : Error}
    {reason otherReason : String} (fails : FirstAttemptFails listener heard error reason)
    (failsSo : FirstAttemptFails listener heard other otherReason) :
    error = other ∧ reason = otherReason := by
  cases fails with
  | unaddressed failed later =>
      cases failsSo with
      | unaddressed failedSo =>
          rw [Listener.url_eq_error_iff] at failed failedSo
          cases failed.symm.trans failedSo
          exact ⟨rfl, rfl⟩
      | refused found => exact absurd failed (Listener.url_ne_error_of_ok found _)
  | refused found refusal later =>
      cases failsSo with
      | unaddressed failed => exact absurd failed (Listener.url_ne_error_of_ok found _)
      | refused => exact ⟨rfl, rfl⟩

theorem IsLoss.filterMap_loss? {loss : List Signal} {reason : String} (lost : IsLoss loss reason) :
    loss.filterMap Signal.loss? = [reason] := by
  cases lost <;> rfl

theorem IsLoss.getLast?_ne {loss : List Signal} {reason : String} (lost : IsLoss loss reason)
    (quiet : List Signal) (error : Error) :
    (quiet ++ loss).getLast? ≠ some (.sendFailed error) := by
  cases lost <;> simp

theorem firstConnectionIsLost_iff {later : List Signal} {reason : String} :
    FirstConnectionIsLost (.begin :: .opened :: later) reason ↔
      ∃ quiet loss, later = quiet ++ loss ∧ quiet.filterMap Signal.loss? = [] ∧
        IsLoss loss reason := by
  simp [FirstConnectionIsLost]

namespace Engine

/-- What holds after the first connection has opened, of what was heard since then. -/
def AfterOpening (autoReconnect : Bool) (later : List Signal) : Phase → Prop
  | .connecting | .waiting => autoReconnect = true ∧ ¬ SomeConnectionCompletes later
  | .configuring | .streaming =>
      ¬ SomeConnectionCompletes later ∧
        (autoReconnect = false → later.filterMap Signal.loss? = [])
  | .abandoning reason =>
      ¬ SomeConnectionCompletes later ∧
        (autoReconnect = false → ∃ quiet error, later = quiet ++ [.sendFailed error] ∧
          quiet.filterMap Signal.loss? = [] ∧ error.message = reason)
  | .closed .completed =>
      SomeConnectionCompletes later ∧
        (autoReconnect = false → later.filterMap Signal.loss? = [])
  | .closed (.disconnected reason) =>
      ¬ SomeConnectionCompletes later ∧ autoReconnect = false ∧
        ∃ quiet loss, later = quiet ++ loss ∧ quiet.filterMap Signal.loss? = [] ∧
          IsLoss loss reason
  | .idle | .leaving | .closed (.connectionFailed _) | .closed .stopped => False

/-- How an engine with a listening caller stands: what it has heard and done so far. -/
inductive Account (listener : Listener) (engine : Engine) : List Signal → List Effect → Prop where
  | idle (waits : engine.phase = .idle) (unopened : engine.everOpened = false) :
      Account listener engine [] []
  | connecting {token : Option String} {url : Url} (waits : engine.phase = .connecting)
      (unopened : engine.everOpened = false) (found : listener.url token = .ok url) :
      Account listener engine [.begin] [.enter .connecting, .readToken, .connect url token]
  | failed {heard : List Signal} {effects : List Effect} {error : Error} {reason : String}
      (ended : engine.phase = .closed (.connectionFailed reason))
      (fails : FirstAttemptFails listener heard error reason)
      (unopened : ∀ signal ∈ heard, signal = .begin ∨ ∃ error, signal = .refused error)
      (givesUp : GivesUp effects error) : Account listener engine heard effects
  | opened {token : Option String} {url : Url} (later : List Signal) {effects : List Effect}
      (opened : engine.everOpened = true) (found : listener.url token = .ok url)
      (since : AfterOpening listener.autoReconnect later engine.phase) :
      Account listener engine (.begin :: .opened :: later) effects

variable {listener : Listener} {engine : Engine} {heard later : List Signal}
  {effects : List Effect}

theorem isUnwanted_of_listening (listening : engine.caller = .listening) :
    engine.isUnwanted = false := by
  rw [isUnwanted, listening]
  rfl

@[simp] theorem someConnectionCompletes_append_singleton (signal : Signal) :
    SomeConnectionCompletes (later ++ [signal]) ↔
      SomeConnectionCompletes later ∨ ∃ reason, signal = .received (.closed false reason) := by
  simp [SomeConnectionCompletes, exists_or, eq_comm]

/-- A loss is followed by another attempt, or else ends the subscription. -/
theorem afterOpening_lose (listening : engine.caller = .listening)
    (opened : engine.everOpened = true) {reason : String}
    (uncompleted : ¬ SomeConnectionCompletes later)
    (isLost : listener.autoReconnect = false → ∃ quiet loss, later = quiet ++ loss ∧
      quiet.filterMap Signal.loss? = [] ∧ IsLoss loss reason) :
    let lost := (engine.lose listener reason).1
    lost.caller = .listening ∧ lost.everOpened = true ∧
      AfterOpening listener.autoReconnect later lost.phase := by
  have next : (engine.lose listener reason).1 =
      if listener.autoReconnect then { engine with phase := .waiting, losses := engine.losses + 1 }
      else { engine with phase := .closed (.disconnected reason) } := by
    rw [lose]
    cases listener.autoReconnect <;> simp [opened, finish]
  rw [next]
  cases again : listener.autoReconnect with
  | true => exact ⟨listening, opened, rfl, uncompleted⟩
  | false => exact ⟨listening, opened, uncompleted, rfl, isLost again⟩

/-- What an engine with a listening caller does about a signal, once a connection has opened. -/
theorem afterOpening_step (listening : engine.caller = .listening)
    (opened : engine.everOpened = true) {url : Url} {token : Option String}
    (found : listener.url token = .ok url)
    (since : AfterOpening listener.autoReconnect later engine.phase) (signal : Signal) :
    let stepped := (engine.step listener token signal).1
    stepped.caller = .listening ∧ stepped.everOpened = true ∧
      AfterOpening listener.autoReconnect
        (later ++ if engine.phase.awaits signal then [signal] else []) stepped.phase := by
  have wanted := isUnwanted_of_listening listening
  have reacts := step_reaction listener token engine signal
  generalize engine.step listener token signal = stepped at reacts ⊢
  -- Only a loss needs thought: what was heard before it holds no other one if nobody reconnects.
  cases reacts with
  | begun waits => rw [waits] at since; exact since.elim
  | elapsed waits =>
      rw [waits] at since ⊢
      obtain ⟨again, uncompleted⟩ := since
      rw [attempt_of_listening listening, found]
      exact ⟨listening, opened, again, by simpa [Phase.awaits] using uncompleted⟩
  | configuring text waits configured =>
      rw [waits] at since ⊢
      obtain ⟨again, uncompleted⟩ := since
      exact ⟨listening, rfl, by simpa [Phase.awaits] using uncompleted, by simp [again]⟩
  | unconfigured waits plain =>
      rw [waits] at since ⊢
      obtain ⟨again, uncompleted⟩ := since
      exact ⟨listening, rfl, by simpa [Phase.awaits] using uncompleted, by simp [again]⟩
  | refused error waits =>
      rw [waits] at since ⊢
      obtain ⟨again, uncompleted⟩ := since
      exact afterOpening_lose listening opened (by simpa [Phase.awaits] using uncompleted)
        (by simp [again])
  | sent waits =>
      rw [waits] at since ⊢
      obtain ⟨uncompleted, unlost⟩ := since
      exact ⟨listening, opened, by simpa [Phase.awaits] using uncompleted,
        by simpa [Phase.awaits, Signal.loss?] using unlost⟩
  | sendFailed error waits =>
      rw [waits] at since ⊢
      obtain ⟨uncompleted, unlost⟩ := since
      exact ⟨listening, opened, by simpa [Phase.awaits] using uncompleted,
        fun once => ⟨later, error, rfl, unlost once, rfl⟩⟩
  | abandoned reason waits =>
      rw [waits] at since ⊢
      obtain ⟨uncompleted, unsent⟩ := since
      refine afterOpening_lose listening opened (by simpa [Phase.awaits] using uncompleted) ?_
      intro once
      obtain ⟨quiet, error, rfl, unlost, rfl⟩ := unsent once
      exact ⟨quiet, _, List.append_assoc .., unlost, .unconfigured error⟩
  | framed text waits =>
      rw [waits] at since ⊢
      obtain ⟨uncompleted, unlost⟩ := since
      rw [handFrame_of_listening listening]
      refine ⟨listening, opened, ?_⟩
      dsimp only
      rw [waits]
      exact ⟨by simpa [Phase.awaits] using uncompleted,
        by simpa [Phase.awaits, Signal.loss?] using unlost⟩
  | completed reason waits =>
      rw [waits] at since ⊢
      obtain ⟨-, unlost⟩ := since
      exact ⟨listening, opened, by simp [Phase.awaits],
        by simpa [Phase.awaits, Signal.loss?] using unlost⟩
  | lost reason waits =>
      rw [waits] at since ⊢
      obtain ⟨uncompleted, unlost⟩ := since
      exact afterOpening_lose listening opened (by simpa [Phase.awaits] using uncompleted)
        fun once => ⟨later, _, rfl, unlost once, .closed reason⟩
  | left waits => rw [waits] at since; exact since.elim
  | cancelled waits unwanted => rw [wanted] at unwanted; cases unwanted
  | leaving waits unwanted => rw [wanted] at unwanted; cases unwanted
  | unheard signal deaf =>
      rw [deaf]
      simpa using ⟨listening, opened, since⟩

theorem account_attempt (listening : engine.caller = .listening)
    (unopened : engine.everOpened = false) (token : Option String) :
    (engine.attempt listener token).1.caller = .listening ∧
      Account listener (engine.attempt listener token).1 [.begin]
        (engine.attempt listener token).2 := by
  rw [attempt_of_listening listening]
  cases found : listener.url token with
  | ok url => exact ⟨listening, .connecting rfl unopened found⟩
  | error error =>
      refine ⟨listening, .failed rfl (.unaddressed found []) (by simp) ⟨?_, ?_, ?_⟩⟩ <;>
        simp [fail, deliver, finish, listening, attemptsOf, List.filterMap_cons, Effect.item?]

theorem account_lose (listening : engine.caller = .listening)
    (unopened : engine.everOpened = false) {token : Option String} {url : Url}
    (found : listener.url token = .ok url) (error : Error) :
    let lost := engine.lose listener error.message
    lost.1.caller = .listening ∧ Account listener lost.1 [.begin, .refused error]
      ([.enter .connecting, .readToken, .connect url token] ++ lost.2) := by
  have next : engine.lose listener error.message =
      engine.fail (.error (.connectionFailed error.message)) error.message := by
    rw [lose, unopened]
    rfl
  rw [next]
  refine ⟨listening, .failed rfl (.refused found error []) (by simp) ⟨?_, ?_, ?_⟩⟩ <;>
    simp [fail, deliver, finish, listening, attemptsOf, List.filterMap_cons, Effect.item?]

theorem account_step (listening : engine.caller = .listening)
    (account : Account listener engine heard effects) (token : Option String) (signal : Signal) :
    let stepped := engine.step listener token signal
    stepped.1.caller = .listening ∧
      Account listener stepped.1 (heard ++ if engine.phase.awaits signal then [signal] else [])
        (effects ++ stepped.2) := by
  have wanted := isUnwanted_of_listening listening
  cases account with
  | idle waits unopened =>
      have reacts := step_reaction listener token engine signal
      generalize engine.step listener token signal = stepped at reacts ⊢
      cases reacts with
      | begun => exact waits ▸ account_attempt listening unopened token
      | unheard signal deaf => simpa [deaf] using ⟨listening, .idle waits unopened⟩
      | elapsed other | configuring _ other | unconfigured other | refused _ other | sent other
      | sendFailed _ other | abandoned _ other | framed _ other | completed _ other
      | lost _ other | left other | leaving other => cases waits.symm.trans other
      | cancelled _ unwanted => rw [wanted] at unwanted; cases unwanted
  | connecting waits unopened found =>
      have reacts := step_reaction listener token engine signal
      generalize engine.step listener token signal = stepped at reacts ⊢
      cases reacts with
      | configuring text _ configured =>
          rw [waits]
          exact ⟨listening, .opened _ rfl found ⟨by simp [SomeConnectionCompletes], fun _ => rfl⟩⟩
      | unconfigured _ plain =>
          rw [waits]
          exact ⟨listening, .opened _ rfl found ⟨by simp [SomeConnectionCompletes], fun _ => rfl⟩⟩
      | refused error =>
          rw [waits]
          exact account_lose listening unopened found error
      | unheard signal deaf => simpa [deaf] using ⟨listening, .connecting waits unopened found⟩
      | begun other | elapsed other | sent other | sendFailed _ other | abandoned _ other
      | framed _ other | completed _ other | lost _ other | left other | leaving other =>
          cases waits.symm.trans other
      | cancelled _ unwanted => rw [wanted] at unwanted; cases unwanted
  | failed ended fails unopened givesUp =>
      rw [step_of_closed ended, ended]
      exact ⟨listening, by simpa [Phase.awaits] using .failed ended fails unopened givesUp⟩
  | opened later opened found since =>
      have addressed : ∃ url, listener.url token = .ok url :=
        Listener.exists_url_of_exists_url ⟨_, found⟩
      obtain ⟨url, found⟩ := addressed
      obtain ⟨stillListening, stillOpened, sinceThen⟩ :=
        afterOpening_step listening opened found since signal
      exact ⟨stillListening, .opened _ stillOpened found sinceThen⟩

theorem account_run (listening : engine.caller = .listening)
    (account : Account listener engine heard effects) (moves : List Move)
    (wanted : ∀ move ∈ moves, move.isSignal = true) :
    Account listener (engine.run listener moves).1 (heard ++ engine.heard listener moves)
      (effects ++ (engine.run listener moves).2) := by
  induction moves generalizing engine heard effects with
  | nil => simpa [run, Engine.heard] using account
  | cons first rest ih =>
      obtain ⟨isSignal, restWanted⟩ := List.forall_mem_cons.mp wanted
      cases first with
      | signal token signal =>
          obtain ⟨stillListening, next⟩ := account_step listening account token signal
          have last := ih stillListening next restWanted
          rwa [List.append_assoc, List.append_assoc] at last
      | stop => cases isSignal
      | drop => cases isSignal

theorem not_firstAttemptFails_of_opened {token : Option String} {url : Url} {error : Error}
    {reason : String} (found : listener.url token = .ok url) :
    ¬ FirstAttemptFails listener (.begin :: .opened :: later) error reason := by
  intro fails
  cases fails with
  | unaddressed failed => exact Listener.url_ne_error_of_ok found _ failed

namespace Account

theorem connectionFailed_iff (account : Account listener engine heard effects) (reason : String) :
    engine.phase = .closed (.connectionFailed reason) ↔
      ∃ error, FirstAttemptFails listener heard error reason := by
  cases account with
  | idle waits =>
      rw [waits]
      exact ⟨nofun, fun ⟨_, fails⟩ => nomatch fails⟩
  | connecting waits unopened found =>
      rw [waits]
      refine ⟨nofun, fun ⟨error, fails⟩ => ?_⟩
      cases fails with
      | unaddressed failed => exact absurd failed (Listener.url_ne_error_of_ok found _)
  | failed ended fails =>
      rw [ended]
      constructor
      · intro same
        cases same
        exact ⟨_, fails⟩
      · rintro ⟨error, failsSo⟩
        rw [(fails.unique failsSo).2]
  | opened later opened found since =>
      constructor
      · intro ended
        rw [ended] at since
        exact since.elim
      · rintro ⟨error, fails⟩
        exact (not_firstAttemptFails_of_opened found fails).elim

theorem givesUp_of_firstAttemptFails (account : Account listener engine heard effects)
    {error : Error} {reason : String} (fails : FirstAttemptFails listener heard error reason) :
    GivesUp effects error := by
  have ended := (account.connectionFailed_iff reason).mpr ⟨error, fails⟩
  cases account with
  | idle waits => cases waits.symm.trans ended
  | connecting waits => cases waits.symm.trans ended
  | failed _ failsSo _ givesUp => rwa [(fails.unique failsSo).1]
  | opened _ _ found => exact (not_firstAttemptFails_of_opened found fails).elim

theorem completed_iff (account : Account listener engine heard effects) :
    engine.phase = .closed .completed ↔ SomeConnectionCompletes heard := by
  cases account with
  | idle waits => simp [waits, SomeConnectionCompletes]
  | connecting waits => simp [waits, SomeConnectionCompletes]
  | failed ended fails unopened =>
      rw [ended]
      refine ⟨nofun, fun ⟨reason, completes⟩ => ?_⟩
      have impossible := unopened _ completes
      simp at impossible
  | opened later opened found since =>
      have completes : SomeConnectionCompletes (.begin :: .opened :: later) ↔
          SomeConnectionCompletes later := by
        simp [SomeConnectionCompletes]
      rw [completes]
      unfold AfterOpening at since
      split at since <;> simp_all

theorem disconnected_iff (account : Account listener engine heard effects) (reason : String) :
    engine.phase = .closed (.disconnected reason) ↔
      listener.autoReconnect = false ∧ FirstConnectionIsLost heard reason := by
  cases account with
  | idle waits => simp [waits, FirstConnectionIsLost]
  | connecting waits => simp [waits, FirstConnectionIsLost]
  | failed ended fails unopened =>
      -- Nothing has ever opened.
      rw [ended]
      refine ⟨nofun, fun ⟨_, quiet, loss, split, _⟩ => ?_⟩
      have impossible := unopened .opened (by simp [split])
      simp at impossible
  | opened later opened found since =>
      rw [firstConnectionIsLost_iff]
      constructor
      · intro ended
        rw [ended] at since
        exact since.2
      · rintro ⟨once, quiet, loss, rfl, unlost, lost⟩
        have losses : (quiet ++ loss).filterMap Signal.loss? = [reason] := by
          rw [List.filterMap_append, unlost, lost.filterMap_loss?, List.nil_append]
        generalize engine.phase = phase at since ⊢
        cases phase with
        | idle | leaving => exact since.elim
        | connecting | waiting => cases once.symm.trans since.1
        | configuring | streaming => cases losses.symm.trans (since.2 once)
        | abandoning other =>
            -- What was heard last differs: the connection has not been closed yet.
            obtain ⟨before, error, same, -⟩ := since.2 once
            exact absurd (by rw [same]; simp) (lost.getLast?_ne quiet error)
        | closed ended =>
            cases ended with
            | completed => cases losses.symm.trans (since.2 once)
            | disconnected other =>
                obtain ⟨-, -, before, last, same, unlostSo, lostSo⟩ := since
                rw [same, List.filterMap_append, unlostSo, lostSo.filterMap_loss?] at losses
                cases losses
                rfl
            | connectionFailed _ | stopped => exact since.elim

theorem not_stopped (account : Account listener engine heard effects) :
    engine.phase ≠ .closed .stopped := by
  intro ended
  cases account with
  | idle waits => cases waits.symm.trans ended
  | connecting waits => cases waits.symm.trans ended
  | failed endedSo => cases endedSo.symm.trans ended
  | opened later opened found since =>
      rw [ended] at since
      exact since.elim

end Account

/-- The lifecycle of a subscription. Whatever happens, its states, its end and its reconnections
    are in order; and as long as the caller keeps listening, what was heard decides why it ends. -/
theorem run_lifecycle (listener : Listener) (moves : List Move) :
    let last := (initial.run listener moves).1
    let effects := (initial.run listener moves).2
    let heard := initial.heard listener moves
    LifecycleState.idle.IsPath (statesOf effects) last.state ∧
      last.phase.EndsWith effects ∧
      (∀ earlier later, statesOf effects = earlier ++ .reconnecting :: later →
        listener.autoReconnect = true ∧ .opened ∈ earlier) ∧
      ((∀ move ∈ moves, move.isSignal = true) →
        (∀ reason, last.phase = .closed (.connectionFailed reason) ↔
          ∃ error, FirstAttemptFails listener heard error reason) ∧
        (∀ error reason, FirstAttemptFails listener heard error reason → GivesUp effects error) ∧
        (last.phase = .closed .completed ↔ SomeConnectionCompletes heard) ∧
        (∀ reason, last.phase = .closed (.disconnected reason) ↔
          listener.autoReconnect = false ∧ FirstConnectionIsLost heard reason) ∧
        last.phase ≠ .closed .stopped) := by
  intro last effects heard
  have conduct : Conduct listener initial last effects := conduct_run listener initial moves
  refine ⟨conduct.path, conduct.ends nofun, ?_, ?_⟩
  · intro earlier later split
    obtain ⟨wished, opened⟩ := conduct.reconnects earlier later split
    exact ⟨wished, opened.resolve_left nofun⟩
  · intro wanted
    have account : Account listener last heard effects :=
      account_run rfl (.idle rfl rfl) moves wanted
    exact ⟨account.connectionFailed_iff, fun _ _ => account.givesUp_of_firstAttemptFails,
      account.completed_iff, account.disconnected_iff, account.not_stopped⟩

/-- A listener that does not reconnect, to a collection on the loopback host. -/
def transientListener : Listener where
  reference := .collection ⟨["users"], "main"⟩
  baseUrl :=
    ⟨"ws", some (.ofHost (some (.ipv6 [0, 0, 0, 0, 0, 0, 0, 1]))), .segments [""], none, none⟩
  initialFullResult := true
  configuration := none
  projectName := none
  autoReconnect := false
  backoffUnit := 1000

/-- A listener like the transient one that reconnects. -/
def persistentListener : Listener :=
  { transientListener with autoReconnect := true }

/-- A connection that opens and is lost ends the subscription of a listener that does not
    reconnect. -/
theorem run_lifecycle_transientListener :
    let moves := [.begin, .opened, .received (.closed true "gone")].map (.signal none)
    (∀ move ∈ moves, move.isSignal = true) ∧
      (initial.run transientListener moves).1.phase = .closed (.disconnected "gone") := by
  intro moves
  have wanted : ∀ move ∈ moves, move.isSignal = true := by decide
  obtain ⟨-, -, -, determined⟩ := run_lifecycle transientListener moves
  obtain ⟨-, -, -, disconnected, -⟩ := determined wanted
  exact ⟨wanted, (disconnected "gone").mpr ⟨rfl, [], _, rfl, rfl, .closed "gone"⟩⟩

end Engine

end DocStore
