import TestImpact.Table

namespace TestImpact

/-- A session's share of what the recorder holds. The token is all that the recorder knows it by. -/
structure Snapshot where
  session : String
  token : Nat
  deriving DecidableEq, Repr

/-- The snapshots of open sessions. Tokens are counted and never given twice, so that what is left
    of an old session is not taken for a new one's. -/
structure Arena where
  issued : Nat := 0
  live : Table String Snapshot := {}

namespace Arena

def get? (a : Arena) (session : String) : Option Snapshot := a.live.get? session

def size (a : Arena) : Nat := a.live.size

def isEmpty (a : Arena) : Bool := a.size = 0

def allocate (session : String) (a : Arena) : Snapshot × Arena :=
  match a.get? session with
  | some s => (s, a)
  | none =>
    let s : Snapshot := ⟨session, a.issued + 1⟩
    (s, { issued := a.issued + 1, live := a.live.insert session s })

def release (session : String) (a : Arena) : Option Snapshot × Arena :=
  (a.get? session, { a with live := a.live.erase session })

end Arena

end TestImpact
