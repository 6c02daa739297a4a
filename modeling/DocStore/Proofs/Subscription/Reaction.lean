import DocStore.Proofs.Subscription.Run

/-! # What an engine reacts to

All that an engine can do about a signal, once and for all. What has happened to an engine so far
is told by the signals that it was waiting for when they came; it takes no notice of others.
-/

namespace DocStore

/-- Whether a signal is among those that end a wait by themselves. The caller's wish to stop is
    none of them: it ends a wait only if there is such a wish. -/
def Phase.awaits : Phase → Signal → Bool
  | .idle, .begin => true
  | .connecting, .opened => true
  | .connecting, .refused _ => true
  | .configuring, .sent => true
  | .configuring, .sendFailed _ => true
  | .abandoning _, .connectionClosed => true
  | .streaming, .received _ => true
  | .leaving, .connectionClosed => true
  | .waiting, .elapsed => true
  | _, _ => false

/-- Whether an engine can leave a phase because the caller no longer listens. -/
def Phase.isCancellable : Phase → Bool
  | .idle | .connecting | .streaming | .waiting => true
  | .configuring | .abandoning _ | .leaving | .closed _ => false

namespace Engine

/-- The signals of a run that the engine was waiting for when they came. -/
def heard (listener : Listener) (engine : Engine) : List Move → List Signal
  | [] => []
  | .signal token signal :: rest =>
      (if engine.phase.awaits signal then [signal] else []) ++
        heard listener (engine.step listener token signal).1 rest
  | .stop :: rest => heard listener engine.stop rest
  | .drop :: rest => heard listener engine.drop rest

variable (listener : Listener) (token : Option String) (engine : Engine)

/-- What an engine may do about a signal. -/
inductive Reaction : Signal → Engine × List Effect → Prop where
  | begun (waits : engine.phase = .idle) : Reaction .begin (engine.attempt listener token)
  | elapsed (waits : engine.phase = .waiting) : Reaction .elapsed (engine.attempt listener token)
  | configuring (text : String) (waits : engine.phase = .connecting)
      (configured : listener.configuration = some text) :
      Reaction .opened
        ({ engine with phase := .configuring, everOpened := true }, [.enter .opened, .send text])
  | unconfigured (waits : engine.phase = .connecting) (plain : listener.configuration = none) :
      Reaction .opened
        ({ engine with phase := .streaming, everOpened := true },
          [.enter .opened, .enter .streaming])
  | refused (error : Error) (waits : engine.phase = .connecting) :
      Reaction (.refused error) (engine.lose listener error.message)
  | sent (waits : engine.phase = .configuring) :
      Reaction .sent ({ engine with phase := .streaming }, [.enter .streaming])
  | sendFailed (error : Error) (waits : engine.phase = .configuring) :
      Reaction (.sendFailed error)
        ({ engine with phase := .abandoning error.message }, [.closeConnection])
  | abandoned (reason : String) (waits : engine.phase = .abandoning reason) :
      Reaction .connectionClosed (engine.lose listener reason)
  | framed (text : String) (waits : engine.phase = .streaming) :
      Reaction (.received (.frame text)) (engine.handFrame listener text)
  | completed (reason : String) (waits : engine.phase = .streaming) :
      Reaction (.received (.closed false reason)) (engine.finish .completed)
  | lost (reason : String) (waits : engine.phase = .streaming) :
      Reaction (.received (.closed true reason)) (engine.lose listener reason)
  | left (waits : engine.phase = .leaving) :
      Reaction .connectionClosed (engine.finish .stopped)
  | cancelled (waits : engine.phase = .connecting ∨ engine.phase = .waiting)
      (unwanted : engine.isUnwanted = true) :
      Reaction .cancelled (engine.finish .stopped)
  | leaving (waits : engine.phase = .streaming) (unwanted : engine.isUnwanted = true) :
      Reaction .cancelled ({ engine with phase := .leaving }, [.closeConnection])
  | unheard (signal : Signal) (deaf : engine.phase.awaits signal = false) :
      Reaction signal (engine, [])

/-- What an engine may do about the text of a frame. -/
inductive Handing : Engine × List Effect → Prop where
  | ignored : Handing (engine, [])
  | delivered (item : Item) (present : engine.caller ≠ .gone) : Handing (engine, [.deliver item])
  | undeliverable (gone : engine.caller = .gone) :
      Handing ({ engine with phase := .leaving }, [.closeConnection])

theorem step_reaction (signal : Signal) :
    Reaction listener token engine signal (engine.step listener token signal) := by
  obtain ⟨phase, caller, everOpened, losses⟩ := engine
  cases phase with
  | idle =>
      cases signal with
      | begin => exact .begun rfl
      | _ => exact .unheard _ rfl
  | connecting =>
      cases signal with
      | cancelled =>
          dsimp only [step]
          split
          next unwanted => exact .cancelled (.inl rfl) unwanted
          next => exact .unheard _ rfl
      | opened =>
          dsimp only [step]
          split
          next text configured => exact .configuring text rfl configured
          next plain => exact .unconfigured rfl plain
      | refused error => exact .refused error rfl
      | _ => exact .unheard _ rfl
  | configuring =>
      cases signal with
      | sent => exact .sent rfl
      | sendFailed error => exact .sendFailed error rfl
      | _ => exact .unheard _ rfl
  | abandoning reason =>
      cases signal with
      | connectionClosed => exact .abandoned reason rfl
      | _ => exact .unheard _ rfl
  | streaming =>
      cases signal with
      | cancelled =>
          dsimp only [step]
          split
          next unwanted => exact .leaving rfl unwanted
          next => exact .unheard _ rfl
      | received event =>
          cases event with
          | frame text => exact .framed text rfl
          | closed abnormal reason =>
              cases abnormal with
              | false => exact .completed reason rfl
              | true => exact .lost reason rfl
      | _ => exact .unheard _ rfl
  | leaving =>
      cases signal with
      | connectionClosed => exact .left rfl
      | _ => exact .unheard _ rfl
  | waiting =>
      cases signal with
      | cancelled =>
          dsimp only [step]
          split
          next unwanted => exact .cancelled (.inr rfl) unwanted
          next => exact .unheard _ rfl
      | elapsed => exact .elapsed rfl
      | _ => exact .unheard _ rfl
  | closed reason => exact .unheard _ rfl

variable {listener token engine} in
/-- A signal that the engine does not wait for changes nothing, unless it is the caller's wish and
    there is one that the engine looks out for. -/
theorem step_of_deaf {signal : Signal} (deaf : engine.phase.awaits signal = false)
    (unmoved : engine.phase.isCancellable = false ∨ engine.isUnwanted = false) :
    engine.step listener token signal = (engine, []) := by
  have reacts := step_reaction listener token engine signal
  generalize engine.step listener token signal = stepped at reacts ⊢
  cases reacts with
  | begun waits | elapsed waits | configuring _ waits | unconfigured waits | refused _ waits
  | sent waits | sendFailed _ waits | abandoned _ waits | framed _ waits | completed _ waits
  | lost _ waits | left waits => rw [waits] at deaf; cases deaf
  | cancelled waits unwanted =>
      obtain blocked | wanted := unmoved
      · obtain waits | waits := waits <;> (rw [waits] at blocked; cases blocked)
      · cases wanted.symm.trans unwanted
  | leaving waits unwanted =>
      obtain blocked | wanted := unmoved
      · rw [waits] at blocked; cases blocked
      · cases wanted.symm.trans unwanted
  | unheard => rfl

/-! Only the caller's own acts change what the caller wants. -/

@[simp] theorem caller_attempt : (engine.attempt listener token).1.caller = engine.caller := by
  unfold attempt
  split
  next => rfl
  next => split <;> rfl

@[simp] theorem caller_lose (reason : String) :
    (engine.lose listener reason).1.caller = engine.caller := by
  unfold lose
  split
  next => rfl
  next => split <;> rfl

theorem handFrame_handing (text : String) :
    Handing engine (engine.handFrame listener text) := by
  have handed (item : Item) : Handing engine (engine.hand item) := by
    unfold hand
    split
    next gone => exact .undeliverable gone
    next present => exact .delivered item present
  unfold handFrame
  split
  next => exact handed _
  next => exact handed _
  next => exact .ignored
  next => exact handed _

@[simp] theorem caller_handFrame (text : String) :
    (engine.handFrame listener text).1.caller = engine.caller := by
  have hands := handFrame_handing listener engine text
  generalize engine.handFrame listener text = handed at hands ⊢
  cases hands <;> rfl

@[simp] theorem caller_step (signal : Signal) :
    (engine.step listener token signal).1.caller = engine.caller := by
  have reacts := step_reaction listener token engine signal
  generalize engine.step listener token signal = stepped at reacts ⊢
  cases reacts with
  | begun | elapsed => exact caller_attempt ..
  | refused | abandoned | lost => exact caller_lose ..
  | framed => exact caller_handFrame ..
  | configuring | unconfigured | sent | sendFailed | completed | left | cancelled | leaving
  | unheard => rfl

end Engine

end DocStore
