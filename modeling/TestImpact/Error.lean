import TestImpact.Files.Cause
import TestImpact.Files.Path
import TestImpact.Json.Fault
import TestImpact.Refusal

namespace TestImpact

inductive DeliveryError
  /-- The server answered with a status that is no success. -/
  | rejected (target : String) (status : Nat) (body : String)
  | unreached (target : String) (message : String)
  | unwritten (path : Files.Path) (cause : Files.Cause)
  deriving DecidableEq, Repr

namespace DeliveryError

def message : DeliveryError → String
  | rejected target status body => s!"Upload to {target} failed (HTTP {status}): {body}"
  | unreached target message => s!"Upload to {target} failed: {message}"
  | unwritten path cause => s!"Could not write report to {path.display}: {cause.message}"

def chain : DeliveryError → List String
  | unwritten path cause => [message (unwritten path cause), cause.message]
  | e => [e.message]

end DeliveryError

inductive Misuse
  | startWhileRunning (path session active : String)
  | alreadyRan (path session : String)
  | startAfterEnd (session : String)
  | endWhileRunning (session active : String)
  | endAfterEnd (session : String)
  | other (text : String)
  deriving DecidableEq, Repr

def Misuse.reason : Misuse → String
  | startWhileRunning path session active =>
    s!"cannot start {path} in session {session}: {active} is still running"
  | alreadyRan path session => s!"test {path} already ran in session {session}"
  | startAfterEnd session => s!"cannot start a test: session {session} has already ended"
  | endWhileRunning session active =>
    s!"cannot end session {session} while {active} is still running"
  | endAfterEnd session => s!"cannot end the test run: session {session} has already ended"
  | other text => text

inductive Disagreement
  | unknownSession (session : String)
  | alreadyRunning (session active : String)
  | notRunning (path session : String)
  | noCoverage (path : String)
  | unexpectedAnswer (endpoint : String) (fault : Json.Fault)
  | other (text : String)
  deriving DecidableEq, Repr

def Disagreement.reason : Disagreement → String
  | unknownSession session => s!"unknown session {session}"
  | alreadyRunning session active => s!"session {session} already runs {active}"
  | notRunning path session => s!"test {path} is not running in session {session}"
  | noCoverage path => s!"no coverage returned for test {path}"
  | unexpectedAnswer endpoint fault => s!"unexpected response from {endpoint}: {fault.message}"
  | other text => text

inductive Error
  | io (cause : Files.Cause)
  | json (fault : Json.Fault)
  /-- The other side was not reached at all. -/
  | connectivity (endpoint message : String)
  /-- The other side answered with the status of an error. -/
  | agent (endpoint : String) (status : Nat) (body : String)
  | disagreement (d : Disagreement)
  | retriesExhausted (operation : String) (last : Error)
  | misuse (m : Misuse)
  | malformedArtifact (path : Files.Path) (fault : Json.Fault)
  | delivery (e : DeliveryError)
  | refused (r : Refusal)
  deriving DecidableEq, Repr

namespace Error

def message : Error → String
  | io cause => "I/O error: " ++ cause.message
  | json fault => "JSON error: " ++ fault.message
  | connectivity endpoint message => s!"Could not reach {endpoint}: {message}"
  | agent endpoint status body => s!"Agent at {endpoint} responded with HTTP {status}: {body}"
  | disagreement d => "Protocol error: " ++ d.reason
  | retriesExhausted operation last => s!"{operation} failed after retry: {last.message}"
  | misuse m => "Contract violation: " ++ m.reason
  | malformedArtifact path fault => s!"Malformed artifact {path.display}: {fault.message}"
  | delivery e => "Report store error: " ++ e.message
  | refused r => r.message

def chain (e : Error) : List String :=
  e.message ::
    match e with
    | io cause => [cause.message]
    | json fault => [fault.message]
    | retriesExhausted _ last => chain last
    | malformedArtifact _ fault => [fault.message]
    | delivery e => e.chain
    | _ => []

/-- Only a side that was never reached is worth a second try. -/
def isConnectivity : Error → Bool
  | connectivity .. => true
  | _ => false

end Error

end TestImpact
