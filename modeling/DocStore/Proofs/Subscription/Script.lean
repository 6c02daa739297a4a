import DocStore.Proofs.Subscription.Run

/-! # Scripts of attempts

A script says what becomes of each connection attempt of a subscription whose caller keeps
listening. For an engine that is ready for an attempt, everything that it does in the attempt is
determined, up to what the loss of a connection leads to.
-/

namespace DocStore

/-- What a caller reads for a frame. -/
def frameItem? (scope : Reference) (text : String) : Option Item :=
  match FrameMeaning.ofText text scope with
  | .ok (.event event) => some (.ok event)
  | .ok (.serverError message details) => some (.error (.serverReported message details))
  | .ok (.ignoredDelete _) => none
  | .error error => some (.error error)

/-- What the network makes of a connection attempt. -/
inductive AttemptFate where
  | refused (error : Error)
  /-- The connection opens. With an error, nothing can be sent on it; else its peer sends frames
      and closes it. -/
  | accepted (sendError : Option Error) (frames : List String) (abnormal : Bool) (reason : String)

/-- An attempt of a script. -/
structure Attempt where
  /-- What the source of tokens gives for it. -/
  token : Option String
  fate : AttemptFate

namespace Attempt

/-- What an open connection says that gives frames and then closes. -/
def streamSignals (frames : List String) (abnormal : Bool) (reason : String) : List Signal :=
  frames.map (fun text => .received (.frame text)) ++ [.received (.closed abnormal reason)]

/-- What a network that does this says to an engine that tries to connect. -/
def signals (listener : Listener) (attempt : Attempt) : List Signal :=
  match attempt.fate with
  | .refused error => [.refused error]
  | .accepted sendError frames abnormal reason =>
      match listener.configuration, sendError with
      | none, _ => .opened :: streamSignals frames abnormal reason
      | some _, none => .opened :: .sent :: streamSignals frames abnormal reason
      | some _, some error => [.opened, .sendFailed error, .connectionClosed]

/-- What happens to an engine in an attempt, which starts with a signal of its own. -/
def moves (listener : Listener) (start : Signal) (attempt : Attempt) : List Move :=
  (start :: attempt.signals listener).map (.signal attempt.token)

end Attempt

namespace Script

/-- What happens to an engine in a script: it is begun for the first attempt, and for each of the
    others a wait has to end. -/
def moves (listener : Listener) : (start : Signal) → List Attempt → List Move
  | _, [] => []
  | start, attempt :: rest => attempt.moves listener start ++ moves listener .elapsed rest

end Script

namespace Listener

variable {listener : Listener}

theorem exists_url_iff {token : Option String} :
    (∃ url, listener.url token = .ok url) ↔
      ∃ url, listener.baseUrl.endpoint listenSegment listener.reference = .ok url := by
  unfold url Url.listening
  cases listener.baseUrl.endpoint listenSegment listener.reference with
  | error error =>
      constructor <;> (rintro ⟨_, impossible⟩; cases impossible)
  | ok url => exact ⟨fun _ => ⟨url, rfl⟩, fun _ => ⟨_, rfl⟩⟩

/-- A token never decides whether there is a URL. -/
theorem exists_url_of_exists_url {token other : Option String}
    (found : ∃ url, listener.url token = .ok url) : ∃ url, listener.url other = .ok url :=
  exists_url_iff.mpr (exists_url_iff.mp found)

end Listener

namespace Engine

variable {engine : Engine} {listener : Listener}

/-- The engine waits for an attempt to start, and its caller listens. -/
structure IsReady (engine : Engine) (start : Signal) : Prop where
  listening : engine.caller = .listening
  waits : engine.phase = .idle ∧ start = .begin ∨ engine.phase = .waiting ∧ start = .elapsed

theorem IsReady.move_eq {start : Signal} (ready : engine.IsReady start) (token : Option String) :
    engine.move listener (.signal token start) = engine.attempt listener token := by
  rw [move, step.eq_def]
  obtain ⟨phase, rfl⟩ | ⟨phase, rfl⟩ := ready.waits <;> rw [phase]

theorem attempt_of_listening (listening : engine.caller = .listening) (token : Option String) :
    engine.attempt listener token =
      match listener.url token with
      | .ok url =>
          ({ engine with phase := .connecting },
            [.enter .connecting, .readToken, .connect url token])
      | .error error =>
          let ended := engine.fail (.error error) error.message
          (ended.1, [.enter .connecting, .readToken] ++ ended.2) := by
  have wanted : engine.isUnwanted = false := by
    rw [isUnwanted, listening]
    rfl
  rw [attempt, wanted]
  rfl

/-- What the close of a connection leads to. -/
def afterClose (engine : Engine) (listener : Listener) (abnormal : Bool) (reason : String) :
    Engine × List Effect :=
  if abnormal then engine.lose listener reason else engine.finish .completed

theorem handFrame_of_listening (listening : engine.caller = .listening) (text : String) :
    engine.handFrame listener text =
      (engine, (frameItem? listener.reference text).toList.map .deliver) := by
  have handed (item : Item) : engine.hand item = (engine, [.deliver item]) := by
    simp [hand, listening]
  unfold handFrame frameItem?
  cases FrameMeaning.ofText text listener.reference with
  | error error => exact handed _
  | ok meaning =>
      cases meaning with
      | event | serverError => exact handed _
      | ignoredDelete => rfl

/-- What is read from an open connection, up to and including its close: frames change nothing of
    the engine, and each is passed on by itself. -/
theorem run_stream (engine : Engine) (listener : Listener) (listening : engine.caller = .listening)
    (streaming : engine.phase = .streaming) (token : Option String) (frames : List String)
    (abnormal : Bool) (reason : String) :
    engine.run listener ((Attempt.streamSignals frames abnormal reason).map (.signal token)) =
      ((engine.afterClose listener abnormal reason).1,
        (frames.filterMap (frameItem? listener.reference)).map .deliver ++
          (engine.afterClose listener abnormal reason).2) := by
  induction frames with
  | nil =>
      refine (run_singleton _).trans ?_
      rw [move, step.eq_def, streaming]
      cases abnormal <;> rfl
  | cons text rest ih =>
      have moved : engine.move listener (.signal token (.received (.frame text))) =
          (engine, (frameItem? listener.reference text).toList.map .deliver) := by
        rw [move, step.eq_def, streaming]
        exact handFrame_of_listening listening text
      refine (run_cons moved ih).trans ?_
      cases given : frameItem? listener.reference text <;> simp [given]

variable {start : Signal} {attempt : Attempt}

theorem move_start {url : Url} (ready : engine.IsReady start)
    (found : listener.url attempt.token = .ok url) :
    engine.move listener (.signal attempt.token start) =
      ({ engine with phase := .connecting },
        [.enter .connecting, .readToken, .connect url attempt.token]) := by
  rw [ready.move_eq, attempt_of_listening ready.listening, found]

theorem run_streamed {url : Url} {sendError : Option Error} {frames : List String}
    {abnormal : Bool} {reason : String} (ready : engine.IsReady start)
    (found : listener.url attempt.token = .ok url)
    (accepted : attempt.fate = .accepted sendError frames abnormal reason)
    (configured : (listener.configuration.isSome && sendError.isSome) = false) :
    let opened : Engine := { engine with phase := .streaming, everOpened := true }
    engine.run listener (attempt.moves listener start) =
      ((opened.afterClose listener abnormal reason).1,
        [.enter .connecting, .readToken, .connect url attempt.token, .enter .opened] ++
          (listener.configuration.toList.map .send ++ .enter .streaming ::
            ((frames.filterMap (frameItem? listener.reference)).map .deliver ++
              (opened.afterClose listener abnormal reason).2))) := by
  intro opened
  have streamed := run_stream opened listener ready.listening rfl attempt.token frames
    abnormal reason
  rw [Attempt.moves, Attempt.signals, accepted]
  cases configuration : listener.configuration with
  | none =>
      have moved : ({ engine with phase := .connecting } : Engine).move listener
          (.signal attempt.token .opened) = (opened, [.enter .opened, .enter .streaming]) := by
        simp [move, step, configuration, opened]
      refine (run_cons (move_start ready found) (run_cons moved streamed)).trans ?_
      simp
  | some text =>
      have unfailing : sendError = none := by simpa [configuration] using configured
      subst unfailing
      have moved : ({ engine with phase := .connecting } : Engine).move listener
          (.signal attempt.token .opened) =
            ({ engine with phase := .configuring, everOpened := true },
              [.enter .opened, .send text]) := by
        simp [move, step, configuration]
      have sent : ({ engine with phase := .configuring, everOpened := true } : Engine).move listener
          (.signal attempt.token .sent) = (opened, [.enter .streaming]) := rfl
      have configured := run_cons moved (run_cons sent streamed)
      refine (run_cons (move_start ready found) configured).trans ?_
      simp

theorem run_unconfigured {url : Url} {text : String} {error : Error} {frames : List String}
    {abnormal : Bool} {reason : String} (ready : engine.IsReady start)
    (found : listener.url attempt.token = .ok url)
    (accepted : attempt.fate = .accepted (some error) frames abnormal reason)
    (configured : listener.configuration = some text) :
    let opened : Engine :=
      { engine with phase := .abandoning error.message, everOpened := true }
    engine.run listener (attempt.moves listener start) =
      ((opened.lose listener error.message).1,
        [.enter .connecting, .readToken, .connect url attempt.token, .enter .opened, .send text,
          .closeConnection] ++ (opened.lose listener error.message).2) := by
  intro opened
  have opens : ({ engine with phase := .connecting } : Engine).move listener
      (.signal attempt.token .opened) =
        ({ engine with phase := .configuring, everOpened := true },
          [.enter .opened, .send text]) := by
    simp [move, step, configured]
  have fails : ({ engine with phase := .configuring, everOpened := true } : Engine).move listener
      (.signal attempt.token (.sendFailed error)) = (opened, [.closeConnection]) := rfl
  have closes : opened.run listener [.signal attempt.token .connectionClosed] =
      ((opened.lose listener error.message).1, (opened.lose listener error.message).2) :=
    run_singleton _
  have abandoned := run_cons opens (run_cons fails closes)
  rw [Attempt.moves, Attempt.signals, accepted, configured]
  refine (run_cons (move_start ready found) abandoned).trans ?_
  simp

theorem run_refused {url : Url} {error : Error} (ready : engine.IsReady start)
    (found : listener.url attempt.token = .ok url) (refused : attempt.fate = .refused error) :
    let connecting : Engine := { engine with phase := .connecting }
    engine.run listener (attempt.moves listener start) =
      ((connecting.lose listener error.message).1,
        [.enter .connecting, .readToken, .connect url attempt.token] ++
          (connecting.lose listener error.message).2) := by
  intro connecting
  have refuses : connecting.run listener [.signal attempt.token (.refused error)] =
      ((connecting.lose listener error.message).1, (connecting.lose listener error.message).2) :=
    run_singleton _
  rw [Attempt.moves, Attempt.signals, refused]
  exact run_cons (move_start ready found) refuses

end Engine

end DocStore
