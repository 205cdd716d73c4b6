import TestImpact.Clock
import TestImpact.Collection.Service
import TestImpact.Retry

namespace TestImpact

structure Session where
  id : String
  clusters : List Cluster
  active : Option String := none
  /-- The tests that ran, each once. -/
  finished : List String := []
  ended : Bool := false
  deriving DecidableEq, Repr

/-- A test that was started and not yet ended. Ending it uses it up. -/
structure RunningTest where
  path : String
  started : Nat
  deriving DecidableEq, Repr

structure Client (σ : Type) where
  service : Service σ
  clock : Clock σ
  baseline : Option Int := none

namespace Client

variable {σ : Type}

def register (client : Client σ) (request : Registration) : Action Error σ Session := do
  let plan ← withRetry "start test run" (client.service.register request)
  Action.log .info <|
    s!"Started test run {plan.sessionId} with {plan.clusters.length} clusters at " ++
      client.service.description
  return { id := plan.sessionId, clusters := plan.clusters }

def firstRepeated (seen : List String) : List String → Option String
  | [] => none
  | p :: ps => if p ∈ seen then some p else firstRepeated (p :: seen) ps

/-- Begins a run of some of the given tests, which have to differ in their paths. -/
def begin (client : Client σ) (tests : List Candidate) : Action Error σ Session :=
  match firstRepeated [] (tests.map Candidate.path) with
  | some path => .fail (.refused (.duplicateTest path))
  | none => client.register ⟨some tests, false, client.baseline⟩

/-- Begins a run for coverage alone: the caller decides what to run, and nothing is planned. -/
def beginWithoutSelection (client : Client σ) : Action Error σ Session :=
  client.register ⟨none, true, client.baseline⟩

/-- Begins a run of the tests that the other side saw last. -/
def beginUnchanged (client : Client σ) : Action Error σ Session :=
  client.register ⟨none, false, client.baseline⟩

end Client

namespace Session

variable {σ : Type}

def tests (s : Session) : List PlannedTest := s.clusters.flatMap Cluster.tests

/-- Opens the window of a test. The session has to be open and idle, and each test runs once. -/
def startTest (client : Client σ) (path : String) : Action Error (Session × σ) RunningTest := do
  let s ← Action.onFst (.look fun s => s)
  if s.ended then .fail (.misuse (.startAfterEnd s.id))
  else
    match s.active with
    | some active => .fail (.misuse (.startWhileRunning path s.id active))
    | none =>
      if path ∈ s.finished then .fail (.misuse (.alreadyRan path s.id))
      else
        Action.onSnd (withRetry "start test" (client.service.startTest s.id path))
        Action.log .debug s!"Started test {path}"
        Action.onFst (.change fun s => { s with active := some path })
        let started ← Action.onSnd client.clock.stopwatch.lift
        return ⟨path, started⟩

def elapsed (started now : Nat) : UInt64 := UInt64.ofNat (min (now - started) (UInt64.size - 1))

/-- Closes the window of a running test. The session is free for the next test before the other side
    is asked, so that a failed call does not block it. -/
def finish (client : Client σ) (test : RunningTest) (verdict : Verdict) (retrieve : Bool) :
    Action Error (Session × σ) (Option Attribution) := do
  let s ← Action.onFst (.look fun s => s)
  Action.onFst (.change fun s =>
    { s with active := none, finished := s.finished.insert test.path })
  let now ← Action.onSnd client.clock.stopwatch.lift
  let execution : Execution :=
    { path := test.path, duration := elapsed test.started now, status := verdict.status,
      message := verdict.message }
  let info ← Action.onSnd <|
    withRetry "end test" (client.service.endTest s.id execution retrieve)
  Action.log .debug
    s!"Ended test {test.path} with {verdict.status.name} after {execution.duration} ms"
  return info

def endTest (client : Client σ) (test : RunningTest) (verdict : Verdict) :
    Action Error (Session × σ) Unit := do
  let _ ← finish client test verdict false

def endTestWithCoverage (client : Client σ) (test : RunningTest) (verdict : Verdict) :
    Action Error (Session × σ) Attribution := do
  match ← finish client test verdict true with
  | some info => return info
  | none => .fail (.disagreement (.noCoverage test.path))

/-- Ends the run; the report of all that was recorded is delivered if that is asked for. The session
    is over even if the call fails. -/
def endRun (client : Client σ) (upload : Bool) : Action Error (Session × σ) Unit := do
  let s ← Action.onFst (.look fun s => s)
  if s.ended then .fail (.misuse (.endAfterEnd s.id))
  else
    match s.active with
    | some active => .fail (.misuse (.endWhileRunning s.id active))
    | none =>
      Action.onFst (.change fun s => { s with ended := true })
      Action.onSnd (withRetry "end test run" (client.service.endRun s.id upload))
      Action.log .info <|
        s!"Ended test run {s.id} after {s.finished.length} tests (upload: {upload})"

/-- Lets go of a session. One that was not ended is not finalized, which is worth a warning. -/
def abandon (s : Session) : List LogLine :=
  if s.ended then []
  else
    [⟨.warn, s!"Test run {s.id} was dropped without being ended; its coverage was not finalized"⟩]

end Session

end TestImpact
