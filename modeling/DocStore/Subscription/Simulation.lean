import DocStore.Subscription.Engine
import DocStore.Subscription.Handle

/-! # Simulated subscriptions

A subscription over a scripted network in virtual time. Time stands still until it is advanced;
connection attempts take the outcomes that are queued for them, and open connections the events
that are queued for them.
-/

namespace DocStore

inductive AttemptOutcome where
  /-- The connection of this number opens. With an error, nothing can be sent on it. -/
  | accept (connection : Nat) (sendError : Option String)
  | refuse (reason : String)
  deriving DecidableEq, Repr

structure AttemptRecord where
  url : Url
  token : Option String
  /-- The time since the beginning. -/
  time : Nat
  deriving DecidableEq, Repr

/-- What happened since the last time somebody looked. -/
structure Activity where
  items : List Item
  attempts : List AttemptRecord
  /-- The frames that were sent, each with the number of its connection. -/
  sent : List (Nat × String)
  /-- The numbers of the connections that were closed by the client. -/
  closes : List Nat

def Activity.nothing : Activity := ⟨[], [], [], []⟩

/-- What the script of a simulation does. -/
inductive ScriptStep where
  | settle
  | accept (sendError : Option String)
  | refuse (reason : String)
  /-- An event on the connection of this number, or on the one that was accepted last. -/
  | event (event : ConnectionEvent) (connection : Option Nat)
  | advance (duration times : Nat)
  | stop
  | drop
  | askReason
  deriving DecidableEq, Repr

/-- A subscription and its surroundings. -/
structure Simulation where
  listener : Listener
  tokens : TokenSource
  tokensRead : Nat
  engine : Engine
  handle : Handle
  time : Nat
  /-- When the wait before the next attempt ends. -/
  wakeTime : Nat
  /-- The number of the connection that was opened last. -/
  connection : Nat
  /-- Whether sending on that connection fails, and why. -/
  sendError : Option String
  /-- The outcomes that are queued for attempts. -/
  outcomes : List AttemptOutcome
  /-- The events that are queued for each connection, in the order of their numbers. -/
  inbox : List (List ConnectionEvent)
  activity : Activity

namespace Simulation

def start (listener : Listener) (tokens : TokenSource) : Simulation where
  listener := listener
  tokens := tokens
  tokensRead := 0
  engine := .initial
  handle := .initial
  time := 0
  wakeTime := 0
  connection := 0
  sendError := none
  outcomes := []
  inbox := []
  activity := .nothing

/-- The events that are queued for the open connection. -/
def pending (sim : Simulation) : List ConnectionEvent :=
  (sim.inbox[sim.connection]?).getD []

/-- Do what an effect of the engine asks for. -/
def apply (sim : Simulation) : Effect → Simulation
  | .enter _ | .report _ => sim
  | .readToken => { sim with tokensRead := sim.tokensRead + 1 }
  | .connect url token =>
      let record : AttemptRecord := ⟨url, token, sim.time⟩
      { sim with activity := { sim.activity with attempts := sim.activity.attempts ++ [record] } }
  | .send text =>
      if sim.sendError.isSome then sim
      else
        { sim with activity :=
            { sim.activity with sent := sim.activity.sent ++ [(sim.connection, text)] } }
  | .closeConnection =>
      { sim with activity :=
          { sim.activity with closes := sim.activity.closes ++ [sim.connection] } }
  | .deliver item =>
      { sim with activity := { sim.activity with items := sim.activity.items ++ [item] } }
  | .sleep duration => { sim with wakeTime := sim.time + duration }

def give (sim : Simulation) (signal : Signal) : Simulation :=
  let (engine, effects) := sim.engine.step sim.listener (sim.tokens sim.tokensRead) signal
  effects.foldl apply { sim with engine := engine }

/-- Let the next outcome decide the attempt that is being made. -/
def decideAttempt (sim : Simulation) : Option Simulation :=
  match sim.outcomes with
  | [] => none
  | .refuse reason :: rest =>
      some ({ sim with outcomes := rest }.give (.refused (.connectionFailed reason)))
  | .accept connection sendError :: rest =>
      some ({ sim with
        outcomes := rest
        connection := connection
        sendError := sendError }.give .opened)

/-- Pass the next event of the open connection on. -/
def receive (sim : Simulation) : Option Simulation :=
  match sim.pending with
  | [] => none
  | event :: rest =>
      some ({ sim with inbox := sim.inbox.set sim.connection rest }.give (.received event))

/-- Let the engine notice that the caller no longer listens, if that is so. -/
def cancel (sim : Simulation) : Option Simulation :=
  if sim.engine.isUnwanted then some (sim.give .cancelled) else none

/-- End the wait of the engine, if something does. Where the wish to stop and a result are both
    there, an event of an open connection gives way to the wish; the outcome of an attempt and the
    end of a delay do not. -/
def proceed (sim : Simulation) : Option Simulation :=
  match sim.engine.phase with
  | .idle => some (sim.give .begin)
  | .connecting => sim.decideAttempt <|> sim.cancel
  | .configuring =>
      match sim.sendError with
      | some reason => some (sim.give (.sendFailed (.connectionFailed reason)))
      | none => some (sim.give .sent)
  | .abandoning _ | .leaving => some (sim.give .connectionClosed)
  | .streaming => sim.cancel <|> sim.receive
  | .waiting => if sim.wakeTime ≤ sim.time then some (sim.give .elapsed) else sim.cancel
  | .closed _ => none

/-- A bound on the number of waits that can end before time goes on: a few for each queued outcome
    and event, and for the engine's beginning and end. -/
def bound (sim : Simulation) : Nat :=
  5 * sim.outcomes.length + 3 * sim.inbox.flatten.length + 8

/-- Run the engine until it rests, for at most a number of steps. -/
def settleWithin : (steps : Nat) → Simulation → Simulation
  | 0, sim => sim
  | steps + 1, sim =>
      match sim.proceed with
      | some next => settleWithin steps next
      | none => sim

def settle (sim : Simulation) : Simulation :=
  settleWithin sim.bound sim

/-- Move time on and run the engine until it rests, a number of times. -/
def advance (duration : Nat) : (times : Nat) → Simulation → Simulation
  | 0, sim => sim
  | times + 1, sim => advance duration times { sim with time := sim.time + duration }.settle

/-- Queue an event for a connection. -/
def queueEvent (sim : Simulation) (event : ConnectionEvent) (connection : Option Nat) :
    Simulation :=
  let number := connection.getD (sim.inbox.length - 1)
  { sim with inbox := sim.inbox.modify number fun events => events ++ [event] }

/-- Do what a step of the script says, without running the engine where time does not move. -/
def act (sim : Simulation) : ScriptStep → Simulation
  | .settle | .askReason => sim
  | .accept sendError =>
      { sim with
        outcomes := sim.outcomes ++ [.accept sim.inbox.length sendError]
        inbox := sim.inbox ++ [[]] }
  | .refuse reason => { sim with outcomes := sim.outcomes ++ [.refuse reason] }
  | .event event connection => sim.queueEvent event connection
  | .advance duration times => sim.settle.advance duration times
  | .stop => { sim with engine := sim.engine.stop }
  | .drop => { sim with engine := sim.engine.drop }

def hasHandle (sim : Simulation) : Bool :=
  sim.engine.caller != .gone

/-- The state that the handle shows. -/
def state? (sim : Simulation) : Option LifecycleState :=
  if sim.hasHandle then some sim.engine.state else none

/-- Whether a reader of the events is told that there are no more. -/
def hasEnded (sim : Simulation) : Bool :=
  sim.hasHandle && sim.engine.state == .closed

/-- Ask why the subscription ended; there is no answer while it has not, nor without a handle. -/
def askReason (sim : Simulation) : Simulation × Option EndReason :=
  match sim.hasHandle, sim.engine.phase with
  | true, .closed reason =>
      let (handle, answer) := sim.handle.callEnded reason
      ({ sim with handle := handle }, some answer)
  | _, _ => (sim, none)

/-- The activity since the last time this was asked. -/
def takeActivity (sim : Simulation) : Simulation × Activity :=
  ({ sim with activity := .nothing }, sim.activity)

end Simulation

end DocStore
