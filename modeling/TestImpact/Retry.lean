import TestImpact.Action
import TestImpact.Error

namespace TestImpact

/-- Runs an operation again, once and at once, if the other side was not reached. An answer of the
    other side is never asked for again, even if it is an error. -/
def withRetry {σ α : Type} (operation : String) (op : Action Error σ α) : Action Error σ α := do
  match ← op.attempt with
  | .ok a => return a
  | .error e =>
    if e.isConnectivity then
      Action.log .warn s!"{operation} failed, retrying once: {e.message}"
      match ← op.attempt with
      | .ok a =>
        Action.log .debug s!"{operation} succeeded on retry"
        return a
      | .error e =>
        if e.isConnectivity then .fail (.retriesExhausted operation e) else .fail e
    else .fail e

def maxAttempts : Nat := 2

end TestImpact
