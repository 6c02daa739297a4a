import DocStore.Subscription.Lifecycle

/-! # The caller's handle

The caller may ask, any number of times, why a subscription ended. A call takes what it needs out
of the handle, waits for the engine's report and then for the engine's end, and puts the answer
back only when it completes: a call that is abandoned while it waits takes the report with it.
-/

namespace DocStore

/-- What a handle still holds. -/
structure Handle where
  /-- Whether the engine's report can still be received. -/
  awaitsReport : Bool
  /-- Whether the engine's end can still be waited for. -/
  awaitsEnd : Bool
  /-- The answer of an earlier call. -/
  answer : Option EndReason
  deriving DecidableEq, Repr

/-- A call for the reason, between its waits. -/
inductive ReasonCall where
  | awaitingReport
  | awaitingEnd (reason : EndReason)
  | done (reason : EndReason)
  deriving DecidableEq, Repr

namespace Handle

def initial : Handle := ⟨true, true, none⟩

/-- Complete a call: keep the reason for later ones. -/
def complete (handle : Handle) (reason : EndReason) : Handle × ReasonCall :=
  ({ handle with answer := some reason }, .done reason)

/-- Go on with a call that knows the reason. -/
def awaitEnd (handle : Handle) (reason : EndReason) : Handle × ReasonCall :=
  if handle.awaitsEnd then ({ handle with awaitsEnd := false }, .awaitingEnd reason)
  else handle.complete reason

/-- Begin a call. Without a report to wait for, the subscription counts as stopped. -/
def beginCall (handle : Handle) : Handle × ReasonCall :=
  match handle.answer with
  | some reason => (handle, .done reason)
  | none =>
      if handle.awaitsReport then ({ handle with awaitsReport := false }, .awaitingReport)
      else handle.awaitEnd .stopped

/-- Go on with a call when the engine has reported why it ended and is done. -/
def resume (handle : Handle) (call : ReasonCall) (reported : EndReason) :
    Handle × ReasonCall :=
  match call with
  | .awaitingReport => handle.awaitEnd reported
  | .awaitingEnd reason => handle.complete reason
  | .done reason => (handle, .done reason)

/-- A whole call to a subscription whose engine has ended. -/
def callEnded (handle : Handle) (reported : EndReason) : Handle × EndReason :=
  let (first, begun) := handle.beginCall
  let (second, informed) := first.resume begun reported
  let (last, finished) := second.resume informed reported
  match finished with
  | .awaitingReport => (last, reported)
  | .awaitingEnd reason | .done reason => (last, reason)

end Handle

end DocStore
