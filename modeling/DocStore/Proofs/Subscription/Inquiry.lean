import DocStore.Proofs.Subscription.Ending
import DocStore.Subscription.Handle

/-! # Asking why a subscription ended

A caller asks for the reason through the handle while the engine runs, any number of times, and
may abandon a call wherever it waits. What comes of the first call decides all others: if it is
answered, so is every later one, with the reason that the engine reported. If it is abandoned, no
call learns that reason any more, and all answers are that the caller stopped the subscription.
-/

namespace DocStore

/-- The reason that an effect reports. -/
def Effect.reason? : Effect → Option EndReason
  | .report reason => some reason
  | .enter _ | .readToken | .connect _ _ | .send _ | .closeConnection | .deliver _ | .sleep _ =>
      none

/-- What comes of a call. -/
inductive CallOutcome where
  | answered (reason : EndReason)
  | abandoned
  deriving DecidableEq, Repr

/-- What happens next to a subscription and to the calls of its caller. -/
inductive Turn where
  /-- Something happens to the engine. -/
  | move (move : Move)
  /-- The engine's task ends. -/
  | finish
  /-- A call begins. -/
  | ask
  /-- The call that waits looks for what it waits for. -/
  | poll
  /-- The call that waits is abandoned. -/
  | abandon

/-- A subscription, and the calls of its caller one after the other. -/
structure Inquiry where
  engine : Engine
  /-- What the engine has done. -/
  effects : List Effect
  /-- Whether the engine's task has ended. -/
  isOver : Bool
  handle : Handle
  /-- The call that waits. -/
  pending : Option ReasonCall
  /-- What came of the other calls, in order. -/
  outcomes : List CallOutcome

/-- What happens to the engine in a turn. -/
def Turn.move? : Turn → Option Move
  | .move happening => some happening
  | .finish | .ask | .poll | .abandon => none

theorem reason?_of_not_isFinal {effect : Effect} (quiet : effect.isFinal = false) :
    effect.reason? = none := by
  cases effect <;> first | rfl | cases quiet

/-- What is reported is the reason for which the engine is closed, if it is. -/
theorem Phase.EndsWith.findSome?_reason? {phase : Phase} {effects : List Effect}
    (ends : phase.EndsWith effects) (reason : EndReason) :
    effects.findSome? Effect.reason? = some reason ↔ phase = .closed reason := by
  have silent {quiet : List Effect} (noneFinal : ∀ effect ∈ quiet, effect.isFinal = false) :
      quiet.findSome? Effect.reason? = none :=
    List.findSome?_eq_none_iff.mpr fun effect listed =>
      reason?_of_not_isFinal (noneFinal effect listed)
  unfold EndsWith at ends
  split at ends
  next given =>
      obtain ⟨before, rfl, quiet⟩ := ends
      simp [List.findSome?_append, silent quiet, List.findSome?_cons, Effect.reason?]
  next unended =>
      rw [silent ends]
      exact ⟨nofun, fun closed => absurd closed (unended reason)⟩

namespace Inquiry

/-- A subscription that has just begun, about which nothing has been asked. -/
def initial : Inquiry := ⟨.initial, [], false, .initial, none, []⟩

/-- The reason that the engine has reported. -/
def reported (inquiry : Inquiry) : Option EndReason :=
  inquiry.effects.findSome? Effect.reason?

/-- A call comes to its next wait, or to its answer. -/
def settle (inquiry : Inquiry) : Handle × ReasonCall → Inquiry
  | (handle, .done reason) =>
      { inquiry with
        handle := handle, pending := none, outcomes := inquiry.outcomes ++ [.answered reason] }
  | (handle, waiting) => { inquiry with handle := handle, pending := some waiting }

/-- What one turn does. A turn that cannot be taken does nothing: the task does not end before its
    report, calls do not overlap, and only a call that waits can be abandoned. -/
def act (listener : Listener) (inquiry : Inquiry) : Turn → Inquiry
  | .move move =>
      let moved := inquiry.engine.move listener move
      { inquiry with engine := moved.1, effects := inquiry.effects ++ moved.2 }
  | .finish => { inquiry with isOver := inquiry.isOver || inquiry.reported.isSome }
  | .ask =>
      match inquiry.pending with
      | none => inquiry.settle inquiry.handle.beginCall
      | some _ => inquiry
  | .poll =>
      match inquiry.pending, inquiry.reported with
      | some .awaitingReport, some reason =>
          inquiry.settle (inquiry.handle.resume .awaitingReport reason)
      | some (.awaitingEnd known), some reason =>
          if inquiry.isOver then inquiry.settle (inquiry.handle.resume (.awaitingEnd known) reason)
          else inquiry
      | _, _ => inquiry
  | .abandon =>
      match inquiry.pending with
      | none => inquiry
      | some _ => { inquiry with pending := none, outcomes := inquiry.outcomes ++ [.abandoned] }

/-- What many turns do, one after the other. -/
def run (listener : Listener) (inquiry : Inquiry) (turns : List Turn) : Inquiry :=
  turns.foldl (act listener) inquiry

variable {listener : Listener} {inquiry : Inquiry}

@[simp] theorem engine_settle (settled : Handle × ReasonCall) :
    (inquiry.settle settled).engine = inquiry.engine := by
  obtain ⟨handle, call⟩ := settled
  cases call <;> rfl

@[simp] theorem effects_settle (settled : Handle × ReasonCall) :
    (inquiry.settle settled).effects = inquiry.effects := by
  obtain ⟨handle, call⟩ := settled
  cases call <;> rfl

/-- Asking does not concern the engine. -/
theorem engine_act_of_asking (listener : Listener) (inquiry : Inquiry) {turn : Turn}
    (asks : turn.move? = none) :
    (inquiry.act listener turn).engine = inquiry.engine ∧
      (inquiry.act listener turn).effects = inquiry.effects := by
  cases turn with
  | move move => cases asks
  | finish => exact ⟨rfl, rfl⟩
  | ask | poll | abandon =>
      rw [act]
      split <;> first | exact ⟨rfl, rfl⟩ | simp | (split <;> simp)

/-- The engine runs as if nobody asked. -/
theorem engine_run (listener : Listener) (inquiry : Inquiry) (turns : List Turn) :
    ((inquiry.run listener turns).engine, (inquiry.run listener turns).effects) =
      ((inquiry.engine.run listener (turns.filterMap Turn.move?)).1,
        inquiry.effects ++ (inquiry.engine.run listener (turns.filterMap Turn.move?)).2) := by
  induction turns generalizing inquiry with
  | nil => simp [run, Engine.run]
  | cons first rest ih =>
      have later := ih (inquiry.act listener first)
      cases happens : first.move? with
      | none =>
          obtain ⟨sameEngine, sameEffects⟩ := engine_act_of_asking listener inquiry happens
          rw [sameEngine, sameEffects] at later
          rwa [List.filterMap_cons_none happens]
      | some happening =>
          rw [List.filterMap_cons_some happens, Engine.run, ← List.append_assoc]
          cases first with
          | move =>
              cases happens
              exact later
          | finish | ask | poll | abandon => cases happens

/-- The engine reports when it closes, and the reason for which it closes. -/
theorem reported_run_iff (turns : List Turn) (reason : EndReason) :
    (initial.run listener turns).reported = some reason ↔
      (initial.run listener turns).engine.phase = .closed reason := by
  obtain ⟨sameEngine, sameEffects⟩ := Prod.mk.inj (engine_run listener initial turns)
  rw [reported, sameEngine, sameEffects]
  exact ((Engine.conduct_run listener .initial _).ends nofun).findSome?_reason? reason

/-- A report stands, whatever happens. -/
theorem reported_act {reason : EndReason} (told : inquiry.reported = some reason) (turn : Turn) :
    (inquiry.act listener turn).reported = some reason := by
  cases turn with
  | move move =>
      rw [reported, act, List.findSome?_append, ← reported, told]
      rfl
  | finish | ask | poll | abandon =>
      rwa [reported, (engine_act_of_asking listener inquiry rfl).2]

/-- A call that begins when the engine's task has ended, and that nobody abandons. -/
theorem run_whole_call {reason : EndReason} (told : inquiry.reported = some reason)
    (ended : inquiry.isOver = true) (idle : inquiry.pending = none) :
    inquiry.run listener [.ask, .poll, .poll] =
      { inquiry with
        handle := (inquiry.handle.callEnded reason).1
        outcomes := inquiry.outcomes ++ [.answered (inquiry.handle.callEnded reason).2] } := by
  obtain ⟨engine, effects, isOver, ⟨awaitsReport, awaitsEnd, answer⟩, pending, outcomes⟩ := inquiry
  cases ended
  cases idle
  rw [reported] at told
  cases answer <;> cases awaitsReport <;> cases awaitsEnd <;>
    simp [run, act, settle, reported, told, Handle.callEnded, Handle.beginCall, Handle.resume,
      Handle.awaitEnd, Handle.complete]

/-! ## What the first call decides -/

/-- How the calls stand: what has come of the first one, and what the handle holds since then. -/
inductive Standing (inquiry : Inquiry) : Prop
  | unasked (fresh : inquiry.handle = .initial) (idle : inquiry.pending = none)
      (first : inquiry.outcomes = [])
  | awaitingReport (taken : inquiry.handle = ⟨false, true, none⟩)
      (waits : inquiry.pending = some .awaitingReport) (first : inquiry.outcomes = [])
  | awaitingEnd {reason : EndReason} (told : inquiry.reported = some reason)
      (taken : inquiry.handle = ⟨false, false, none⟩)
      (waits : inquiry.pending = some (.awaitingEnd reason)) (first : inquiry.outcomes = [])
  | answered {reason : EndReason} (told : inquiry.reported = some reason)
      (ended : inquiry.isOver = true) (kept : inquiry.handle.answer = some reason)
      (idle : inquiry.pending = none) (asked : inquiry.outcomes ≠ [])
      (same : ∀ outcome ∈ inquiry.outcomes, outcome = .answered reason)
  | lost (taken : inquiry.handle.awaitsReport = false)
      (kept : ∀ reason, inquiry.handle.answer = some reason → reason = .stopped)
      (waits : ∀ call, inquiry.pending = some call → call = .awaitingEnd .stopped)
      (first : inquiry.outcomes.head? = some .abandoned)
      (same : ∀ reason, .answered reason ∈ inquiry.outcomes → reason = .stopped)

/-- A call without a report to wait for is answered, sooner or later, as if the caller had stopped
    the subscription. -/
theorem standing_settle_lost {handle : Handle} {call : ReasonCall}
    (taken : handle.awaitsReport = false)
    (kept : ∀ reason, handle.answer = some reason → reason = .stopped)
    (known : call = .awaitingEnd .stopped ∨ call = .done .stopped)
    (first : inquiry.outcomes.head? = some .abandoned)
    (same : ∀ reason, .answered reason ∈ inquiry.outcomes → reason = .stopped) :
    Standing (inquiry.settle (handle, call)) := by
  obtain rfl | rfl := known
  · refine .lost taken kept (fun call waits => ?_) first same
    cases waits
    rfl
  · refine .lost taken kept nofun ?_ fun reason listed => ?_
    · rw [settle, List.head?_append, first]
      rfl
    · obtain earlier | last := List.mem_append.mp listed
      · exact same reason earlier
      · cases List.mem_singleton.mp last
        rfl

theorem standing_move (standing : Standing inquiry) (move : Move) :
    Standing (inquiry.act listener (.move move)) := by
  cases standing with
  | unasked fresh idle first => exact .unasked fresh idle first
  | awaitingReport taken waits first => exact .awaitingReport taken waits first
  | awaitingEnd told taken waits first =>
      exact .awaitingEnd (reported_act told (.move move)) taken waits first
  | answered told ended kept idle asked same =>
      exact .answered (reported_act told (.move move)) ended kept idle asked same
  | lost taken kept waits first same => exact .lost taken kept waits first same

theorem standing_finish (standing : Standing inquiry) :
    Standing (inquiry.act listener .finish) := by
  cases standing with
  | unasked fresh idle first => exact .unasked fresh idle first
  | awaitingReport taken waits first => exact .awaitingReport taken waits first
  | awaitingEnd told taken waits first => exact .awaitingEnd told taken waits first
  | answered told ended kept idle asked same =>
      exact .answered told (by rw [act, ended, Bool.true_or]) kept idle asked same
  | lost taken kept waits first same => exact .lost taken kept waits first same

theorem standing_ask (standing : Standing inquiry) : Standing (inquiry.act listener .ask) := by
  cases standing with
  | unasked fresh idle first =>
      rw [act, idle, fresh]
      exact .awaitingReport rfl rfl first
  | awaitingReport taken waits first =>
      rw [act, waits]
      exact .awaitingReport taken waits first
  | awaitingEnd told taken waits first =>
      rw [act, waits]
      exact .awaitingEnd told taken waits first
  | @answered reason told ended kept idle asked same =>
      have begun : inquiry.handle.beginCall = (inquiry.handle, .done reason) := by
        rw [Handle.beginCall, kept]
      simp only [act, idle, begun]
      refine .answered told ended kept rfl (by simp [settle]) ?_
      exact List.forall_mem_append.mpr ⟨same, List.forall_mem_singleton.mpr rfl⟩
  | lost taken kept waits first same =>
      rw [act]
      split
      next idle =>
          rw [Handle.beginCall]
          split
          next reason known =>
              cases kept reason known
              exact standing_settle_lost taken kept (.inr rfl) first same
          next unknown =>
              -- There is no report to wait for, at most the end of the task.
              rw [taken, if_neg Bool.false_ne_true, Handle.awaitEnd]
              split
              next => exact standing_settle_lost taken kept (.inl rfl) first same
              next =>
                  exact standing_settle_lost taken (fun _ known => (Option.some.inj known).symm)
                    (.inr rfl) first same
      next => exact .lost taken kept waits first same

theorem standing_poll (standing : Standing inquiry) : Standing (inquiry.act listener .poll) := by
  cases standing with
  | unasked fresh idle first =>
      rw [act, idle]
      exact .unasked fresh idle first
  | awaitingReport taken waits first =>
      cases told : inquiry.reported with
      | none =>
          rw [act, waits, told]
          exact .awaitingReport taken waits first
      | some reason =>
          rw [act, waits, told, taken]
          exact .awaitingEnd told rfl rfl first
  | @awaitingEnd reason told taken waits first =>
      rw [act, waits, told]
      dsimp only
      split
      next ended =>
          refine .answered told ended rfl rfl ?_ ?_ <;>
            simp [Handle.resume, Handle.complete, settle, first]
      next => exact .awaitingEnd told taken waits first
  | answered told ended kept idle asked same =>
      rw [act, idle]
      exact .answered told ended kept idle asked same
  | lost taken kept waits first same =>
      rw [act]
      split
      next waiting told => cases waits _ waiting
      next known reason waiting told =>
          cases waits _ waiting
          split
          next =>
              exact standing_settle_lost taken (fun _ known => (Option.some.inj known).symm)
                (.inr rfl) first same
          next => exact .lost taken kept waits first same
      next => exact .lost taken kept waits first same

/-- The first call takes the report with it when it is abandoned. Later there is none to lose. -/
theorem standing_abandon (standing : Standing inquiry) :
    Standing (inquiry.act listener .abandon) := by
  cases standing with
  | unasked fresh idle first =>
      rw [act, idle]
      exact .unasked fresh idle first
  | awaitingReport taken waits first | awaitingEnd told taken waits first =>
      -- Nothing has been put back into the handle yet.
      rw [act, waits]
      refine .lost ?_ ?_ nofun ?_ ?_ <;> simp [taken, first]
  | answered told ended kept idle asked same =>
      rw [act, idle]
      exact .answered told ended kept idle asked same
  | lost taken kept waits first same =>
      rw [act]
      split
      next => exact .lost taken kept waits first same
      next =>
          refine .lost taken kept nofun ?_ fun reason listed => same reason ?_
          · rw [List.head?_append, first]
            rfl
          · simpa using listed

/-- Whatever the engine and the caller do, the calls stand in one of these ways. -/
theorem standing_run (standing : Standing inquiry) (turns : List Turn) :
    Standing (inquiry.run listener turns) := by
  induction turns generalizing inquiry with
  | nil => exact standing
  | cons first rest ih =>
      refine ih ?_
      cases first with
      | move move => exact standing_move standing move
      | finish => exact standing_finish standing
      | ask => exact standing_ask standing
      | poll => exact standing_poll standing
      | abandon => exact standing_abandon standing

/-- As long as the first call is not abandoned, every call is answered with the reported reason,
    and not before the engine's task has ended. -/
theorem Standing.heeded (standing : Standing inquiry)
    (heeded : inquiry.outcomes.head? ≠ some .abandoned) {outcome : CallOutcome}
    (listed : outcome ∈ inquiry.outcomes) :
    inquiry.isOver = true ∧ ∃ reason, outcome = .answered reason ∧
      inquiry.reported = some reason := by
  cases standing with
  | unasked _ _ first | awaitingReport _ _ first | awaitingEnd _ _ _ first =>
      rw [first] at listed
      cases listed
  | answered told ended kept idle some same => exact ⟨ended, _, same outcome listed, told⟩
  | lost taken kept waits first => exact absurd first heeded

/-- Once the first call has been abandoned, every answer is that the caller stopped the
    subscription. -/
theorem Standing.unheeded (standing : Standing inquiry)
    (abandoned : inquiry.outcomes.head? = some .abandoned) {reason : EndReason}
    (answered : .answered reason ∈ inquiry.outcomes) : reason = .stopped := by
  cases standing with
  | unasked _ _ first | awaitingReport _ _ first | awaitingEnd _ _ _ first =>
      rw [first] at abandoned
      cases abandoned
  | answered told ended kept idle some same => cases same _ (List.mem_of_mem_head? abandoned)
  | lost taken kept waits first same => exact same reason answered

/-- What comes of the first call decides what comes of all. If it is not abandoned, no call is, and
    each is answered with the reported reason when the engine's task has ended. Otherwise every
    answer is that the caller stopped the subscription. So the answers agree with the report unless
    the first call is abandoned, another one is answered, and the caller has not stopped the
    subscription. -/
theorem outcomes_follow_first (listener : Listener) (turns : List Turn) :
    let asked := initial.run listener turns
    (asked.outcomes.head? ≠ some .abandoned → ∀ outcome ∈ asked.outcomes, asked.isOver = true ∧
        ∃ reason, outcome = .answered reason ∧ asked.reported = some reason) ∧
      (asked.outcomes.head? = some .abandoned →
        ∀ reason, .answered reason ∈ asked.outcomes → reason = .stopped) ∧
      ((∀ reason, .answered reason ∈ asked.outcomes → asked.reported = some reason) ↔
        asked.outcomes.head? ≠ some .abandoned ∨ (∀ reason, .answered reason ∉ asked.outcomes) ∨
          asked.reported = some .stopped) := by
  intro asked
  have standing : Standing asked := standing_run (.unasked rfl rfl rfl) turns
  have faithful (heeded : asked.outcomes.head? ≠ some .abandoned) (reason : EndReason)
      (answered : .answered reason ∈ asked.outcomes) : asked.reported = some reason := by
    obtain ⟨-, _, same, told⟩ := standing.heeded heeded answered
    cases same
    exact told
  refine ⟨fun heeded _ => standing.heeded heeded, fun abandoned _ => standing.unheeded abandoned,
    ?_⟩
  by_cases abandoned : asked.outcomes.head? = some .abandoned
  · constructor
    · intro agree
      by_cases unanswered : ∀ reason, .answered reason ∉ asked.outcomes
      · exact .inr (.inl unanswered)
      · obtain ⟨reason, answered⟩ := Classical.not_forall_not.mp unanswered
        cases standing.unheeded abandoned answered
        exact .inr (.inr (agree .stopped answered))
    · rintro (heeded | unanswered | stopped) reason answered
      · exact absurd abandoned heeded
      · exact absurd answered (unanswered reason)
      · cases standing.unheeded abandoned answered
        exact stopped
  · exact iff_of_true (faithful abandoned) (.inl abandoned)

/-- Once a call has been abandoned, the next one is told that the caller stopped the subscription
    while the engine reported that the server completed it. Once two have been abandoned, the next
    one is told so even while the engine runs. -/
theorem stopped_told_after_abandoned_call :
    let streaming := [.begin, .opened].map fun signal => Turn.move (.signal none signal)
    let completed := Turn.move (.signal none (.received (.closed false "bye")))
    let once := initial.run Engine.persistentListener
      ([.ask, .abandon] ++ streaming ++ [completed, .finish, .ask, .poll])
    let twice := initial.run Engine.persistentListener
      (streaming ++ [.ask, .abandon, .ask, .abandon, .ask])
    once.reported = some .completed ∧ once.outcomes = [.abandoned, .answered .stopped] ∧
      twice.engine.phase = .streaming ∧ twice.reported = none ∧
      twice.outcomes = [.abandoned, .abandoned, .answered .stopped] :=
  ⟨rfl, rfl, rfl, rfl, rfl⟩

end Inquiry

end DocStore
