
/-! # Lifecycle of a subscription

The states of a subscription, the reasons for which it ends, and the waiting between its
connection attempts.
-/

namespace DocStore

inductive LifecycleState where
  | idle
  | connecting
  | opened
  | streaming
  | reconnecting
  | closed
  deriving DecidableEq, Repr

def LifecycleState.name : LifecycleState → String
  | .idle => "Idle"
  | .connecting => "Connecting"
  | .opened => "Open"
  | .streaming => "Streaming"
  | .reconnecting => "Reconnecting"
  | .closed => "Closed"

inductive EndReason where
  /-- The server closed the connection normally. -/
  | completed
  /-- An open connection was lost, and no other is tried. -/
  | disconnected (reason : String)
  /-- The first connection never opened. -/
  | connectionFailed (reason : String)
  | stopped
  deriving DecidableEq, Repr

/-- The longest wait between two attempts, in units. -/
def maxDelay : Nat := 20

/-- The wait after a number of earlier losses, in units: it doubles each time up to the longest
    one. -/
def delayUnits (losses : Nat) : Nat :=
  if 5 ≤ losses then maxDelay else min maxDelay (1 <<< losses)

end DocStore
