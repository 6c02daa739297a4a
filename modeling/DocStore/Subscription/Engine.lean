import DocStore.Frame
import DocStore.Listen
import DocStore.Subscription.Lifecycle
import DocStore.Connection

/-! # The engine of a subscription

A subscription is driven by a machine that works in steps between the points at which it waits.
A signal ends a wait; what the machine does until it waits again are the effects of the step.
The caller may stop the machine at any time, but the machine notices only where it looks: at the
start of an attempt and in the waits that can be cancelled. Sending a configuration and closing
a connection cannot.
-/

namespace DocStore

/-- What the caller wants of a subscription. -/
inductive CallerState where
  | listening
  | stopped
  /-- The handle is gone, so that nothing can be delivered any more. -/
  | gone
  deriving DecidableEq, Repr

/-- Where an engine waits. -/
inductive Phase where
  | idle
  | connecting
  | configuring
  /-- A connection whose configuration could not be sent is being closed. -/
  | abandoning (reason : String)
  | streaming
  /-- A connection is being closed because the caller no longer listens. -/
  | leaving
  /-- The wait before the next attempt. -/
  | waiting
  | closed (reason : EndReason)
  deriving DecidableEq, Repr

def Phase.state : Phase → LifecycleState
  | .idle => .idle
  | .connecting => .connecting
  | .configuring | .abandoning _ => .opened
  | .streaming | .leaving => .streaming
  | .waiting => .reconnecting
  | .closed _ => .closed

/-- What ends a wait. -/
inductive Signal where
  /-- The engine is run for the first time. -/
  | begin
  /-- The caller's wish to stop is noticed. -/
  | cancelled
  | opened
  | refused (error : Error)
  | sent
  | sendFailed (error : Error)
  | received (event : ConnectionEvent)
  | connectionClosed
  | elapsed
  deriving DecidableEq, Repr

/-- What a listener reads: an event, or an error that does not end the subscription by
    itself. -/
abbrev Item := Except Error ListenerEvent

/-- What an engine does. -/
inductive Effect where
  | enter (state : LifecycleState)
  /-- Read the token that the next attempt uses. -/
  | readToken
  | connect (url : Url) (token : Option String)
  | send (text : String)
  | closeConnection
  | deliver (item : Item)
  /-- Wait for some milliseconds. -/
  | sleep (duration : Nat)
  /-- Tell the caller why the subscription ended. -/
  | report (reason : EndReason)

structure Engine where
  phase : Phase
  caller : CallerState
  everOpened : Bool
  /-- The number of losses after which another attempt was made. -/
  losses : Nat
  deriving DecidableEq, Repr

namespace Engine

def initial : Engine := ⟨.idle, .listening, false, 0⟩

def state (engine : Engine) : LifecycleState :=
  engine.phase.state

/-- Whether the caller has stopped listening. -/
def isUnwanted (engine : Engine) : Bool :=
  engine.caller != .listening

def stop (engine : Engine) : Engine :=
  if engine.caller = .gone then engine else { engine with caller := .stopped }

def drop (engine : Engine) : Engine :=
  { engine with caller := .gone }

/-- The effect of delivering an item, which a caller that is gone does not get. -/
def deliver (engine : Engine) (item : Item) : List Effect :=
  if engine.caller = .gone then [] else [.deliver item]

def finish (engine : Engine) (reason : EndReason) : Engine × List Effect :=
  ({ engine with phase := .closed reason }, [.enter .closed, .report reason])

/-- What an error that was found counts as before the first connection has opened. -/
def fail (engine : Engine) (item : Item) (reason : String) : Engine × List Effect :=
  let (ended, effects) := engine.finish (.connectionFailed reason)
  (ended, engine.deliver item ++ effects)

/-- Start a connection attempt, unless the caller no longer listens. The token is read here, and
    it is the given one. -/
def attempt (engine : Engine) (listener : Listener) (token : Option String) :
    Engine × List Effect :=
  if engine.isUnwanted then engine.finish .stopped
  else
    match listener.url token with
    | .ok url =>
        ({ engine with phase := .connecting },
          [.enter .connecting, .readToken, .connect url token])
    | .error error =>
        let (ended, effects) := engine.fail (.error error) error.message
        (ended, [.enter .connecting, .readToken] ++ effects)

/-- Decide what a connection that is lost, or could not be opened, leads to. -/
def lose (engine : Engine) (listener : Listener) (reason : String) : Engine × List Effect :=
  if !engine.everOpened then engine.fail (.error (.connectionFailed reason)) reason
  else if listener.autoReconnect then
    ({ engine with phase := .waiting, losses := engine.losses + 1 },
      [.enter .reconnecting, .sleep (listener.backoffUnit * delayUnits engine.losses)])
  else engine.finish (.disconnected reason)

/-- Pass an item on to the caller. When the caller is found gone, the connection is closed. -/
def hand (engine : Engine) (item : Item) : Engine × List Effect :=
  if engine.caller = .gone then ({ engine with phase := .leaving }, [.closeConnection])
  else (engine, [.deliver item])

/-- Pass on what the text of a frame tells a listener. An ignored frame tells nothing. -/
def handFrame (engine : Engine) (listener : Listener) (text : String) : Engine × List Effect :=
  match FrameMeaning.ofText text listener.reference with
  | .ok (.event event) => engine.hand (.ok event)
  | .ok (.serverError message details) => engine.hand (.error (.serverReported message details))
  | .ok (.ignoredDelete _) => (engine, [])
  | .error error => engine.hand (.error error)

/-- The work of an engine from the end of one wait to the next. A signal that the engine does not
    wait for changes nothing. `token` is what the source of tokens would give now. -/
def step (engine : Engine) (listener : Listener) (token : Option String) (signal : Signal) :
    Engine × List Effect :=
  match engine.phase, signal with
  | .idle, .begin => engine.attempt listener token
  | .connecting, .cancelled =>
      if engine.isUnwanted then engine.finish .stopped else (engine, [])
  | .connecting, .opened =>
      match listener.configuration with
      | some text =>
          ({ engine with phase := .configuring, everOpened := true }, [.enter .opened, .send text])
      | none =>
          ({ engine with phase := .streaming, everOpened := true },
            [.enter .opened, .enter .streaming])
  | .connecting, .refused error => engine.lose listener error.message
  | .configuring, .sent => ({ engine with phase := .streaming }, [.enter .streaming])
  | .configuring, .sendFailed error =>
      ({ engine with phase := .abandoning error.message }, [.closeConnection])
  | .abandoning reason, .connectionClosed => engine.lose listener reason
  | .streaming, .cancelled =>
      if engine.isUnwanted then ({ engine with phase := .leaving }, [.closeConnection])
      else (engine, [])
  | .streaming, .received (.frame text) => engine.handFrame listener text
  | .streaming, .received (.closed false _) => engine.finish .completed
  | .streaming, .received (.closed true reason) => engine.lose listener reason
  | .leaving, .connectionClosed => engine.finish .stopped
  | .waiting, .cancelled => if engine.isUnwanted then engine.finish .stopped else (engine, [])
  | .waiting, .elapsed => engine.attempt listener token
  | _, _ => (engine, [])

end Engine

end DocStore
