import DocStore.Proofs.Subscription.Script

/-! # What a caller reads

From a script alone follow the attempts that are made and the frames that are received, and the
caller reads what these frames mean, in the order in which they came. The only other item is the
error of a first attempt that does not open.
-/

namespace DocStore

/-- How an attempt goes for a listener. -/
inductive Course where
  /-- No connection opens, and the error is what a listener would be told about it. -/
  | unopened (error : Error)
  /-- The connection opens, but its configuration could not be sent. -/
  | unconfigured
  | streamed (frames : List String) (abnormal : Bool)

namespace Attempt

/-- How an attempt goes: it needs a URL, and a listener with a configuration has to send it. -/
def course (listener : Listener) (attempt : Attempt) : Course :=
  match listener.url attempt.token, attempt.fate with
  | .error error, _ => .unopened error
  | .ok _, .refused error => .unopened (.connectionFailed error.message)
  | .ok _, .accepted sendError frames abnormal _ =>
      if listener.configuration.isSome && sendError.isSome then .unconfigured
      else .streamed frames abnormal

/-- The frames that are received in an attempt. -/
def frames (listener : Listener) (attempt : Attempt) : List String :=
  match attempt.course listener with
  | .streamed frames _ => frames
  | .unopened _ | .unconfigured => []

/-- Whether an attempt ends otherwise than by a normal close. -/
def isLost (listener : Listener) (attempt : Attempt) : Bool :=
  match attempt.course listener with
  | .streamed _ abnormal => abnormal
  | .unopened _ | .unconfigured => true

/-- The error of an attempt that does not open. -/
def openingError? (listener : Listener) (attempt : Attempt) : Option Error :=
  match attempt.course listener with
  | .unopened error => some error
  | .unconfigured | .streamed _ _ => none

end Attempt

namespace Script

/-- The attempts of a script that are made once a connection has been open: another one for each
    loss, if the listener reconnects. -/
def madeAfterOpening (listener : Listener) : List Attempt → List Attempt
  | [] => []
  | attempt :: rest =>
      attempt ::
        if attempt.isLost listener && listener.autoReconnect then madeAfterOpening listener rest
        else []

/-- The error of a first attempt that does not open. -/
def openingError? (listener : Listener) (script : List Attempt) : Option Error :=
  script.head?.bind (Attempt.openingError? listener)

/-- The attempts of a script that are made: no other one if the first does not open. -/
def made (listener : Listener) (script : List Attempt) : List Attempt :=
  if (openingError? listener script).isSome then script.take 1
  else madeAfterOpening listener script

/-- The frames that are received in a script, in the order of connections and of receipt. -/
def frames (listener : Listener) (script : List Attempt) : List String :=
  (made listener script).flatMap (Attempt.frames listener)

end Script

namespace Attempt

variable {listener : Listener} {attempt : Attempt} {url : Url}

theorem course_of_refused {error : Error} (found : listener.url attempt.token = .ok url)
    (refused : attempt.fate = .refused error) :
    attempt.course listener = .unopened (.connectionFailed error.message) := by
  rw [course, found, refused]

theorem course_of_accepted {sendError : Option Error} {frames : List String} {abnormal : Bool}
    {reason : String} (found : listener.url attempt.token = .ok url)
    (accepted : attempt.fate = .accepted sendError frames abnormal reason) :
    attempt.course listener =
      if listener.configuration.isSome && sendError.isSome then .unconfigured
      else .streamed frames abnormal := by
  rw [course, found, accepted]

theorem frames_of_unopened {error : Error} (fails : attempt.openingError? listener = some error) :
    attempt.frames listener = [] := by
  rw [openingError?] at fails
  rw [frames]
  cases course : attempt.course listener with
  | unopened _ => rfl
  | unconfigured => rfl
  | streamed frames abnormal =>
      rw [course] at fails
      cases fails

theorem exists_url_of_opens (opens : attempt.openingError? listener = none) :
    ∃ url, listener.url attempt.token = .ok url := by
  cases found : listener.url attempt.token with
  | ok url => exact ⟨url, rfl⟩
  | error error =>
      rw [openingError?, course, found] at opens
      cases opens

end Attempt

namespace Engine

variable {engine : Engine} {listener : Listener} {start : Signal} {attempt : Attempt}

/-- What an attempt leaves behind: an engine that waits for the next one after a connection has
    been open, or the end. -/
def Leaves (engine : Engine) (another : Bool) : Prop :=
  match another with
  | true => engine.IsReady .elapsed ∧ engine.everOpened = true
  | false => ∃ reason, engine.phase = .closed reason

theorem lose_of_everOpened (engine : Engine) (listener : Listener)
    (listening : engine.caller = .listening) (opened : engine.everOpened = true) (reason : String) :
    itemsOf (engine.lose listener reason).2 = [] ∧
      (engine.lose listener reason).1.Leaves listener.autoReconnect := by
  have again : engine.lose listener reason =
      if listener.autoReconnect then
        ({ engine with phase := .waiting, losses := engine.losses + 1 },
          [.enter .reconnecting, .sleep (listener.backoffUnit * delayUnits engine.losses)])
      else engine.finish (.disconnected reason) := by
    rw [lose, opened]
    rfl
  rw [again]
  cases listener.autoReconnect with
  | false => exact ⟨rfl, _, rfl⟩
  | true => exact ⟨rfl, ⟨listening, .inr ⟨rfl, rfl⟩⟩, opened⟩

theorem afterClose_of_everOpened (engine : Engine) (listener : Listener)
    (listening : engine.caller = .listening) (opened : engine.everOpened = true) (abnormal : Bool)
    (reason : String) :
    itemsOf (engine.afterClose listener abnormal reason).2 = [] ∧
      (engine.afterClose listener abnormal reason).1.Leaves
        (abnormal && listener.autoReconnect) := by
  cases abnormal with
  | false => exact ⟨rfl, _, rfl⟩
  | true => exact lose_of_everOpened engine listener listening opened reason

theorem reads_attempt (ready : engine.IsReady start)
    (found : ∃ url, listener.url attempt.token = .ok url)
    (opens : engine.everOpened = true ∨ attempt.openingError? listener = none) :
    let after := engine.run listener (attempt.moves listener start)
    itemsOf after.2 = (attempt.frames listener).filterMap (frameItem? listener.reference) ∧
      after.1.Leaves (attempt.isLost listener && listener.autoReconnect) := by
  intro after
  obtain ⟨url, found⟩ := found
  cases fate : attempt.fate with
  | refused error =>
      have course := Attempt.course_of_refused found fate
      have opened : engine.everOpened = true := by
        refine opens.resolve_right ?_
        rw [Attempt.openingError?, course]
        exact Option.some_ne_none _
      have lost := lose_of_everOpened { engine with phase := .connecting } listener
        ready.listening opened error.message
      rw [show after = _ from run_refused ready found fate, Attempt.frames, Attempt.isLost, course]
      exact lost
  | accepted sendError frames abnormal reason =>
      have course := Attempt.course_of_accepted found fate
      cases unsendable : listener.configuration.isSome && sendError.isSome with
      | true =>
          rw [unsendable, if_pos rfl] at course
          rw [Bool.and_eq_true, Option.isSome_iff_exists, Option.isSome_iff_exists] at unsendable
          obtain ⟨⟨text, configured⟩, ⟨error, rfl⟩⟩ := unsendable
          have lost := lose_of_everOpened
            { engine with phase := .abandoning error.message, everOpened := true } listener
            ready.listening rfl error.message
          rw [show after = _ from run_unconfigured ready found fate configured, Attempt.frames,
            Attempt.isLost, course]
          exact lost
      | false =>
          rw [unsendable, if_neg Bool.false_ne_true] at course
          have closed := afterClose_of_everOpened
            { engine with phase := .streaming, everOpened := true } listener
            ready.listening rfl abnormal reason
          rw [show after = _ from run_streamed ready found fate unsendable, Attempt.frames,
            Attempt.isLost, course]
          refine ⟨?_, closed.2⟩
          simp [Effect.item?, closed.1]

/-- A first attempt that does not open gives its error, and ends the subscription. -/
theorem reads_unopened {error : Error} (ready : engine.IsReady start)
    (neverOpened : engine.everOpened = false)
    (fails : attempt.openingError? listener = some error) :
    let after := engine.run listener (attempt.moves listener start)
    itemsOf after.2 = [.error error] ∧ after.1.Leaves false := by
  intro after
  cases found : listener.url attempt.token with
  | error urlError =>
      -- The engine closes at once and ignores what the script has for this attempt.
      have course : attempt.course listener = .unopened urlError := by
        rw [Attempt.course, found]
      rw [Attempt.openingError?, course, Option.some.injEq] at fails
      subst fails
      have moved : engine.move listener (.signal attempt.token start) =
          ({ engine with phase := .closed (.connectionFailed urlError.message) },
            [.enter .connecting, .readToken, .deliver (.error urlError), .enter .closed,
              .report (.connectionFailed urlError.message)]) := by
        rw [ready.move_eq, attempt_of_listening ready.listening, found]
        simp [fail, deliver, finish, ready.listening]
      have ended : ({ engine with phase := .closed (.connectionFailed urlError.message) } :
          Engine).phase = .closed (.connectionFailed urlError.message) := rfl
      obtain ⟨silent, closed⟩ := run_of_closed listener ended
        ((attempt.signals listener).map (.signal attempt.token))
      rw [show after = _ from run_cons moved rfl, silent]
      exact ⟨rfl, _, closed⟩
  | ok url =>
      cases fate : attempt.fate with
      | refused error =>
          have course := Attempt.course_of_refused found fate
          rw [Attempt.openingError?, course, Option.some.injEq] at fails
          subst fails
          have lost : ({ engine with phase := .connecting } : Engine).lose listener error.message =
              ({ engine with phase := .closed (.connectionFailed error.message) },
                [.deliver (.error (.connectionFailed error.message)), .enter .closed,
                  .report (.connectionFailed error.message)]) := by
            simp [lose, fail, deliver, finish, ready.listening, neverOpened]
          rw [show after = _ from run_refused ready found fate, lost]
          exact ⟨rfl, _, rfl⟩
      | accepted sendError frames abnormal reason =>
          have course := Attempt.course_of_accepted found fate
          rw [Attempt.openingError?, course] at fails
          cases unsendable : listener.configuration.isSome && sendError.isSome <;>
            (rw [unsendable] at fails; cases fails)

/-- What is read of a script whose attempts have a URL, once a connection opens. -/
theorem reads_script (script : List Attempt) (ready : engine.IsReady start)
    (found : ∀ token, ∃ url, listener.url token = .ok url)
    (opens : engine.everOpened = true ∨ Script.openingError? listener script = none) :
    itemsOf (engine.run listener (Script.moves listener start script)).2 =
      ((Script.madeAfterOpening listener script).flatMap (Attempt.frames listener)).filterMap
        (frameItem? listener.reference) := by
  induction script generalizing engine start with
  | nil => rfl
  | cons attempt rest ih =>
      -- The engine is closed or ready for the next attempt, and then some connection has been open.
      obtain ⟨items, left⟩ := reads_attempt ready (found attempt.token) opens
      rw [Script.moves, run_append rfl rfl, Script.madeAfterOpening]
      simp only [itemsOf_append, items, List.flatMap_cons, List.filterMap_append]
      cases another : attempt.isLost listener && listener.autoReconnect with
      | false =>
          rw [another] at left
          obtain ⟨reason, closed⟩ := left
          rw [(run_of_closed listener closed _).1]
          rfl
      | true =>
          rw [another] at left
          obtain ⟨readyAgain, opened⟩ := left
          rw [ih readyAgain (.inl opened)]
          rfl

/-- The caller reads exactly what the received frames mean, in order, and else only the error of a
    first attempt that does not open. -/
theorem itemsOf_run_script (listener : Listener) (script : List Attempt) :
    itemsOf (Engine.initial.run listener (Script.moves listener .begin script)).2 =
      (Script.frames listener script).filterMap (frameItem? listener.reference) ++
        (Script.openingError? listener script).toList.map .error := by
  have ready : Engine.initial.IsReady .begin := ⟨rfl, .inl ⟨rfl, rfl⟩⟩
  cases script with
  | nil => rfl
  | cons attempt rest =>
      have first : Script.openingError? listener (attempt :: rest) =
          attempt.openingError? listener := rfl
      cases fails : attempt.openingError? listener with
      | none =>
          have found := Attempt.exists_url_of_opens fails
          have read := reads_script (attempt :: rest) ready
            (fun _ => Listener.exists_url_of_exists_url found) (.inr fails)
          simp [read, Script.frames, Script.made, first, fails]
      | some error =>
          obtain ⟨items, reason, closed⟩ := reads_unopened ready rfl fails
          have nothing := Attempt.frames_of_unopened fails
          rw [Script.moves, run_append rfl rfl]
          simp [items, (run_of_closed listener closed _).1, Script.frames, Script.made, first,
            fails, nothing]

end Engine

end DocStore
