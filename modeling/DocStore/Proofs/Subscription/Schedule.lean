import DocStore.Proofs.Subscription.Ending
import Mathlib.Algebra.Group.Nat.Defs

/-! # The schedule of connection attempts

Runs of an engine with a clock. Times are in milliseconds. The moments of the losses alone decide
when connections are attempted: the waits double from one unit up to twenty, and each begins at the
loss before it.
-/

namespace DocStore

/-- Something that happens to an engine, some time after what happened before it. -/
structure Happening where
  delay : Nat
  move : Move

inductive Landmark where
  | attempt
  | wait (duration : Nat)
  deriving DecidableEq, Repr

@[simp] def Effect.landmark? : Effect → Option Landmark
  | .connect _ _ => some .attempt
  | .sleep duration => some (.wait duration)
  | .enter _ | .readToken | .send _ | .closeConnection | .deliver _ | .report _ => none

/-- Whether a signal that an engine was waiting for is the loss of a connection, or of an attempt.
    A connection whose configuration could not be sent is lost when it has been closed. -/
@[simp] def Signal.isLoss : Signal → Bool
  | .refused _ | .connectionClosed | .received (.closed true _) => true
  | _ => false

/-- The landmarks among effects, each with its moment. -/
def landmarksOf (done : List (Nat × Effect)) : List (Nat × Landmark) :=
  done.filterMap fun (moment, effect) => effect.landmark?.map (moment, ·)

def lossesOf (heard : List (Nat × Signal)) : List Nat :=
  (heard.filter fun (_, signal) => signal.isLoss).map Prod.fst

/-- The wait and the attempt that each loss leads to. After a number of earlier losses the wait is
    two to that power units, and twenty units at most. -/
def reconnections (unit : Nat) : (earlier : Nat) → (losses : List Nat) → List (Nat × Landmark)
  | _, [] => []
  | earlier, loss :: rest =>
      let duration := unit * min 20 (2 ^ earlier)
      (loss, .wait duration) :: (loss + duration, .attempt) :: reconnections unit (earlier + 1) rest

/-- An engine, the time, and the end of the last wait that it began. -/
structure ClockedEngine where
  engine : Engine
  now : Nat
  wake : Nat

/-- What a clocked run tells: what the engine was waiting for when it came, what it did about it,
    and where it stands. -/
structure Chronicle where
  heard : List (Nat × Signal)
  done : List (Nat × Effect)
  last : ClockedEngine

namespace ClockedEngine

def initial : ClockedEngine := ⟨.initial, 0, 0⟩

@[simp] def wakeAfter (now wake : Nat) : Effect → Nat
  | .sleep duration => now + duration
  | _ => wake

/-- The engine and its clock after something has happened. -/
def next (clocked : ClockedEngine) (listener : Listener) (happening : Happening) : ClockedEngine :=
  let now := clocked.now + happening.delay
  let moved := clocked.engine.move listener happening.move
  ⟨moved.1, now, moved.2.foldl (wakeAfter now) clocked.wake⟩

/-- What an engine makes of many things that happen. -/
def run (listener : Listener) (clocked : ClockedEngine) : List Happening → Chronicle
  | [] => ⟨[], [], clocked⟩
  | first :: rest =>
      let next := clocked.next listener first
      let later := run listener next rest
      { heard := (clocked.engine.heard listener [first.move]).map (next.now, ·) ++ later.heard
        done := (clocked.engine.move listener first.move).2.map (next.now, ·) ++ later.done
        last := later.last }

/-- Delays end on time: an engine that waits is woken when its wait is over, neither earlier nor
    later. -/
def IsPunctual (listener : Listener) (clocked : ClockedEngine) : List Happening → Prop
  | [] => True
  | first :: rest =>
      let next := clocked.next listener first
      (clocked.engine.phase = .waiting → next.now ≤ clocked.wake ∧
        (.elapsed ∈ clocked.engine.heard listener [first.move] → next.now = clocked.wake)) ∧
        IsPunctual listener next rest

instance decidableIsPunctual (listener : Listener) :
    (clocked : ClockedEngine) → (happenings : List Happening) →
      Decidable (clocked.IsPunctual listener happenings)
  | _, [] => isTrue trivial
  | clocked, first :: rest =>
      have := decidableIsPunctual listener (clocked.next listener first) rest
      inferInstanceAs (Decidable (_ ∧ _))

/-- The attempt that an engine still waits for. -/
def pending (clocked : ClockedEngine) : List (Nat × Landmark) :=
  if clocked.engine.phase = .waiting then [(clocked.wake, .attempt)] else []

end ClockedEngine

@[simp] theorem landmarksOf_append (first second : List (Nat × Effect)) :
    landmarksOf (first ++ second) = landmarksOf first ++ landmarksOf second :=
  List.filterMap_append

@[simp] theorem lossesOf_append (first second : List (Nat × Signal)) :
    lossesOf (first ++ second) = lossesOf first ++ lossesOf second := by
  rw [lossesOf, List.filter_append, List.map_append, ← lossesOf, ← lossesOf]

theorem delayUnits_eq (losses : Nat) : delayUnits losses = min 20 (2 ^ losses) := by
  unfold delayUnits maxDelay
  split
  next many =>
      have large : 2 ^ 5 ≤ 2 ^ losses := Nat.pow_le_pow_right (by decide) many
      omega
  next => rw [Nat.one_shiftLeft]

theorem reconnections_append (unit earlier : Nat) (first second : List Nat) :
    reconnections unit earlier (first ++ second) =
      reconnections unit earlier first ++ reconnections unit (earlier + first.length) second := by
  induction first generalizing earlier with
  | nil => rfl
  | cons loss rest ih =>
      simp only [List.cons_append, reconnections, ih, List.length_cons]
      rw [Nat.add_assoc, Nat.add_comm 1]

namespace ClockedEngine

open Engine

variable {clocked : ClockedEngine} {listener : Listener}

theorem heard_cons (listener : Listener) (engine : Engine) (first : Move) (rest : List Move) :
    engine.heard listener (first :: rest) =
      engine.heard listener [first] ++ (engine.move listener first).1.heard listener rest := by
  cases first <;> simp [Engine.heard, Engine.move]

/-- A clock changes nothing of what an engine hears and does. -/
theorem run_unclocked (listener : Listener) (clocked : ClockedEngine)
    (happenings : List Happening) :
    let chronicle := clocked.run listener happenings
    let moves := happenings.map Happening.move
    chronicle.heard.map Prod.snd = clocked.engine.heard listener moves ∧
      chronicle.done.map Prod.snd = (clocked.engine.run listener moves).2 ∧
      chronicle.last.engine = (clocked.engine.run listener moves).1 := by
  induction happenings generalizing clocked with
  | nil => exact ⟨rfl, rfl, rfl⟩
  | cons first rest ih =>
      obtain ⟨heard, done, last⟩ := ih (clocked.next listener first)
      refine ⟨?_, ?_, last⟩
      · rw [List.map_cons, heard_cons, run, List.map_append, heard]
        simp [Function.comp_def, next]
      · rw [List.map_cons, run, List.map_append, done, Engine.run]
        simp [Function.comp_def, next]

/-- An engine that goes on after its first connection has opened, and whose caller listens. -/
structure IsUnderway (clocked : ClockedEngine) (listener : Listener) : Prop where
  listening : clocked.engine.caller = .listening
  opened : clocked.engine.everOpened = true
  begun : clocked.engine.phase ≠ .idle
  stays : clocked.engine.phase ≠ .leaving

/-- What something that happens adds to the schedule, and to the number of losses. -/
structure Advances (clocked after : ClockedEngine) (unit : Nat) (effects : List Effect)
    (losses : List Nat) : Prop where
  schedule : landmarksOf (effects.map (after.now, ·)) ++ after.pending =
    clocked.pending ++ reconnections unit clocked.engine.losses losses
  counts : after.engine.losses = clocked.engine.losses + losses.length

theorem lose_of_underway (underway : clocked.IsUnderway listener)
    (reconnects : listener.autoReconnect = true) (text : String) :
    clocked.engine.lose listener text =
      ({ clocked.engine with phase := .waiting, losses := clocked.engine.losses + 1 },
        [.enter .reconnecting,
          .sleep (listener.backoffUnit * min 20 (2 ^ clocked.engine.losses))]) := by
  simp [lose, underway.opened, reconnects, delayUnits_eq]

theorem underway_step (underway : clocked.IsUnderway listener)
    (reconnects : listener.autoReconnect = true) (addressed : ∃ url, listener.url none = .ok url)
    (delay : Nat) (token : Option String) (signal : Signal)
    (punctual : clocked.engine.phase = .waiting → signal = .elapsed →
      clocked.now + delay = clocked.wake) :
    let happening : Happening := ⟨delay, .signal token signal⟩
    let after := clocked.next listener happening
    after.IsUnderway listener ∧
      clocked.Advances after listener.backoffUnit (clocked.engine.step listener token signal).2
        (lossesOf ((clocked.engine.heard listener [happening.move]).map (after.now, ·))) := by
  have lost := lose_of_underway underway reconnects
  obtain ⟨listening, opened, begun, stays⟩ := underway
  have wanted := isUnwanted_of_listening listening
  have reacts := step_reaction listener token clocked.engine signal
  intro happening after
  simp only [after, happening, next, Engine.move, Engine.heard, List.append_nil]
  generalize clocked.engine.step listener token signal = stepped at reacts ⊢
  cases reacts with
  | begun waits => exact absurd waits begun
  | left waits => exact absurd waits stays
  | cancelled _ unwanted | leaving _ unwanted => rw [wanted] at unwanted; cases unwanted
  | elapsed waits =>
      have addressed : ∃ url, listener.url token = .ok url :=
        Listener.exists_url_of_exists_url addressed
      obtain ⟨url, found⟩ := addressed
      rw [attempt_of_listening listening, found]
      refine ⟨⟨listening, opened, by simp, by simp⟩, ?_, ?_⟩
      · -- the attempt that was pending is made, on time
        simp [pending, waits, landmarksOf, lossesOf, Phase.awaits, reconnections,
          punctual waits rfl]
      · simp [lossesOf, Phase.awaits, waits]
  | configuring _ waits | unconfigured waits =>
      refine ⟨⟨listening, rfl, by simp, by simp⟩, ?_, ?_⟩ <;>
        simp [pending, waits, landmarksOf, lossesOf, Phase.awaits, reconnections]
  | sent waits | sendFailed _ waits =>
      refine ⟨⟨listening, opened, by simp, by simp⟩, ?_, ?_⟩ <;>
        simp [pending, waits, landmarksOf, lossesOf, Phase.awaits, reconnections]
  | refused _ waits | abandoned _ waits | lost _ waits =>
      rw [lost]
      refine ⟨⟨listening, opened, by simp, by simp⟩, ?_, ?_⟩ <;>
        simp [pending, waits, landmarksOf, lossesOf, Phase.awaits, reconnections]
  | framed text waits =>
      rw [handFrame_of_listening listening]
      refine ⟨⟨listening, opened, begun, stays⟩, ?_, ?_⟩ <;>
        simp [pending, waits, landmarksOf, lossesOf, Phase.awaits, reconnections]
  | completed _ waits =>
      refine ⟨⟨listening, opened, by simp [finish], by simp [finish]⟩, ?_, ?_⟩ <;>
        simp [pending, waits, landmarksOf, lossesOf, Phase.awaits, reconnections, finish]
  | unheard signal deaf =>
      refine ⟨⟨listening, opened, begun, stays⟩, ?_, ?_⟩ <;>
        simp [deaf, landmarksOf, lossesOf, reconnections, pending]

/-- Every loss that an engine under way hears adds a wait and an attempt; an attempt is pending
    while the engine waits. -/
theorem landmarksOf_run_of_underway (underway : clocked.IsUnderway listener)
    (reconnects : listener.autoReconnect = true) (addressed : ∃ url, listener.url none = .ok url)
    {happenings : List Happening}
    (wanted : ∀ happening ∈ happenings, happening.move.isSignal = true)
    (punctual : clocked.IsPunctual listener happenings) :
    let chronicle := clocked.run listener happenings
    landmarksOf chronicle.done ++ chronicle.last.pending =
      clocked.pending ++
        reconnections listener.backoffUnit clocked.engine.losses (lossesOf chronicle.heard) := by
  induction happenings generalizing clocked with
  | nil => simp [run, landmarksOf, lossesOf, reconnections]
  | cons first rest ih =>
      obtain ⟨delay, move⟩ := first
      obtain ⟨isSignal, restWanted⟩ := List.forall_mem_cons.mp wanted
      cases move with
      | stop | drop => cases isSignal
      | signal token signal =>
          obtain ⟨onTime, restPunctual⟩ := punctual
          have wakes : clocked.engine.phase = .waiting → signal = .elapsed →
              clocked.now + delay = clocked.wake := by
            rintro waits rfl
            exact (onTime waits).2 (by simp [Engine.heard, waits, Phase.awaits])
          obtain ⟨stillUnderway, schedule, counts⟩ :=
            underway_step underway reconnects addressed delay token signal wakes
          have later := ih stillUnderway restWanted restPunctual
          simp only [run, landmarksOf_append, lossesOf_append, reconnections_append,
            List.append_assoc] at later ⊢
          rw [later, counts, ← List.append_assoc, ← List.append_assoc, ← schedule]
          rfl

theorem heard_of_closed {engine : Engine} {reason : EndReason}
    (closed : engine.phase = .closed reason) (listener : Listener) {moves : List Move}
    (wanted : ∀ move ∈ moves, move.isSignal = true) : engine.heard listener moves = [] := by
  induction moves with
  | nil => rfl
  | cons first rest ih =>
      obtain ⟨isSignal, restWanted⟩ := List.forall_mem_cons.mp wanted
      cases first with
      | signal token signal =>
          simp [Engine.heard, closed, Phase.awaits, step_of_closed closed, ih restWanted]
      | stop | drop => cases isSignal

/-- The part of a run from the first signal on that the engine was waiting for. Until then nothing
    is done, but time passes. -/
theorem exists_first_heard (listening : clocked.engine.caller = .listening)
    {happenings : List Happening}
    (wanted : ∀ happening ∈ happenings, happening.move.isSignal = true)
    (punctual : clocked.IsPunctual listener happenings) {moment : Nat} {signal : Signal}
    {later : List (Nat × Signal)}
    (heard : (clocked.run listener happenings).heard = (moment, signal) :: later) :
    ∃ (token : Option String) (next : ClockedEngine) (effects : List Effect)
      (rest : List Happening),
      clocked.engine.step listener token signal = (next.engine, effects) ∧
        (∀ happening ∈ rest, happening.move.isSignal = true) ∧ next.IsPunctual listener rest ∧
        clocked.run listener happenings =
          { heard := (moment, signal) :: (next.run listener rest).heard
            done := effects.map (moment, ·) ++ (next.run listener rest).done
            last := (next.run listener rest).last } := by
  induction happenings generalizing clocked with
  | nil => cases heard
  | cons first rest ih =>
      obtain ⟨delay, move⟩ := first
      obtain ⟨isSignal, restWanted⟩ := List.forall_mem_cons.mp wanted
      obtain ⟨-, restPunctual⟩ := punctual
      cases move with
      | stop | drop => cases isSignal
      | signal token given =>
          cases awaited : clocked.engine.phase.awaits given with
          | true =>
              simp only [run, Engine.heard, awaited, if_true, List.append_nil, List.map_cons,
                List.map_nil, List.singleton_append, List.cons.injEq, Prod.mk.injEq] at heard
              obtain ⟨⟨rfl, rfl⟩, rfl⟩ := heard
              refine ⟨token, _, _, rest, rfl, restWanted, restPunctual, ?_⟩
              simp only [run, Engine.heard, awaited, if_true, List.append_nil, List.map_cons,
                List.map_nil, List.singleton_append]
              rfl
          | false =>
              have silent : clocked.engine.step listener token given = (clocked.engine, []) :=
                step_of_deaf awaited (.inr (isUnwanted_of_listening listening))
              have passes : clocked.next listener ⟨delay, .signal token given⟩ =
                  ⟨clocked.engine, clocked.now + delay, clocked.wake⟩ := by
                simp [next, Engine.move, silent]
              have skips : clocked.run listener (⟨delay, .signal token given⟩ :: rest) =
                  run listener ⟨clocked.engine, clocked.now + delay, clocked.wake⟩ rest := by
                simp [run, Engine.heard, Engine.move, awaited, silent, passes]
              rw [skips] at heard ⊢
              rw [passes] at restPunctual
              exact @ih ⟨clocked.engine, clocked.now + delay, clocked.wake⟩ listening restWanted
                restPunctual heard

/-- The first attempt opens: from then on the engine is under way, with nothing pending. -/
theorem landmarksOf_run_of_connecting (listening : clocked.engine.caller = .listening)
    (connecting : clocked.engine.phase = .connecting) (reconnects : listener.autoReconnect = true)
    (addressed : ∃ url, listener.url none = .ok url) {happenings : List Happening}
    (wanted : ∀ happening ∈ happenings, happening.move.isSignal = true)
    (punctual : clocked.IsPunctual listener happenings) {opening : Nat}
    {later : List (Nat × Signal)}
    (opens : (clocked.run listener happenings).heard = (opening, .opened) :: later) :
    let chronicle := clocked.run listener happenings
    landmarksOf chronicle.done ++ chronicle.last.pending =
      reconnections listener.backoffUnit clocked.engine.losses (lossesOf later) := by
  intro chronicle
  obtain ⟨token, next, effects, rest, stepped, restWanted, restPunctual, ran⟩ :=
    exists_first_heard listening wanted punctual opens
  have underway : next.IsUnderway listener ∧ next.engine.losses = clocked.engine.losses ∧
      next.pending = [] ∧ landmarksOf (effects.map (opening, ·)) = [] := by
    obtain ⟨engine, now, wake⟩ := next
    rw [step.eq_def, connecting] at stepped
    cases configured : listener.configuration <;>
      (simp only [configured, Prod.mk.injEq] at stepped
       obtain ⟨rfl, rfl⟩ := stepped
       exact ⟨⟨listening, rfl, by simp, by simp⟩, rfl, rfl, rfl⟩)
  obtain ⟨underway, unlost, nothingPending, nothingDone⟩ := underway
  have onward := landmarksOf_run_of_underway underway reconnects addressed restWanted restPunctual
  rw [ran, List.cons.injEq] at opens
  dsimp only at onward
  rw [nothingPending, unlost, opens.2, List.nil_append] at onward
  rw [show chronicle = _ from ran, landmarksOf_append, nothingDone, List.nil_append, onward]

/-- The schedule of a subscription whose listener reconnects, whose caller keeps listening and
    whose first attempt opens. The first attempt is made as soon as the engine begins. After that
    each loss, and nothing else, is followed by a wait that begins at once, whose length depends on
    nothing but the number of losses before, and by one attempt at its end; the last of them is
    still to come while the engine waits. -/
theorem schedule_of_losses (listener : Listener) (happenings : List Happening)
    (reconnects : listener.autoReconnect = true)
    (wanted : ∀ happening ∈ happenings, happening.move.isSignal = true)
    (punctual : initial.IsPunctual listener happenings) {start opening : Nat}
    {later : List (Nat × Signal)}
    (opens : (initial.run listener happenings).heard =
      (start, .begin) :: (opening, .opened) :: later) :
    let chronicle := initial.run listener happenings
    landmarksOf chronicle.done ++ chronicle.last.pending =
      (start, .attempt) :: reconnections listener.backoffUnit 0 (lossesOf later) := by
  intro chronicle
  obtain ⟨token, next, effects, rest, stepped, restWanted, restPunctual, ran⟩ :=
    exists_first_heard rfl wanted punctual opens
  rw [ran, List.cons.injEq] at opens
  rw [show initial.engine.step listener token .begin = _ from attempt_of_listening rfl token]
    at stepped
  cases found : listener.url token with
  | error error =>
      -- The engine would have closed at once, and heard nothing more.
      rw [found] at stepped
      have closed : next.engine.phase = .closed (.connectionFailed error.message) :=
        congrArg (fun done : Engine × List Effect => done.1.phase) stepped.symm
      have silent := (run_unclocked listener next rest).1
      rw [heard_of_closed closed listener (by simpa using restWanted), opens.2] at silent
      cases silent
  | ok url =>
      rw [found, Prod.mk.injEq] at stepped
      obtain ⟨tries, rfl⟩ := stepped
      have addressed : ∃ url, listener.url none = .ok url :=
        Listener.exists_url_of_exists_url ⟨url, found⟩
      have onward := landmarksOf_run_of_connecting (tries ▸ rfl) (tries ▸ rfl) reconnects addressed
        restWanted restPunctual opens.2
      rw [show next.engine.losses = 0 from tries ▸ rfl] at onward
      rw [show chronicle = _ from ran, landmarksOf_append, List.append_assoc, onward]
      rfl

/-- A connection is lost, the next attempt is refused, and the one after that is still to come. -/
theorem schedule_of_losses_refused :
    let happenings : List Happening :=
      [⟨0, .signal none .begin⟩, ⟨5, .signal none .opened⟩,
        ⟨100, .signal none (.received (.closed true "gone"))⟩, ⟨1000, .signal none .elapsed⟩,
        ⟨3, .signal none (.refused (.connectionFailed "down"))⟩]
    let chronicle := initial.run persistentListener happenings
    (∀ happening ∈ happenings, happening.move.isSignal = true) ∧
      initial.IsPunctual persistentListener happenings ∧
      landmarksOf chronicle.done ++ chronicle.last.pending =
        [(0, .attempt), (105, .wait 1000), (1105, .attempt), (1108, .wait 2000),
          (3108, .attempt)] := by
  intro happenings chronicle
  have wanted : ∀ happening ∈ happenings, happening.move.isSignal = true := by decide
  have punctual : initial.IsPunctual persistentListener happenings := by decide
  exact ⟨wanted, punctual, schedule_of_losses persistentListener happenings rfl wanted punctual rfl⟩

end ClockedEngine

end DocStore
