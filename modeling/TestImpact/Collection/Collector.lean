import TestImpact.Artifact.Kind
import TestImpact.Clock
import TestImpact.Collection.Recorder
import TestImpact.Collection.Service
import TestImpact.Delivery.Store
import TestImpact.Files.Disk

namespace TestImpact

structure SessionRecord where
  active : Option String := none
  executions : List Execution := []
  deriving DecidableEq, Repr

structure Collector where
  arena : Arena := {}
  sessions : Table String SessionRecord := {}
  known : List Candidate := []

structure Collector.Setup (σ : Type) where
  recorder : Recorder σ
  store : Store σ
  format : Report.Format
  /-- Where the executions of ended sessions are written, if they are. -/
  artifactDirectory : Option Files.Path := none
  disk : Files.Disk σ
  clock : Clock σ
  /-- An id that no session had before. -/
  freshId : Action Empty σ String

namespace Collector

variable {σ : Type}

def openSessions (c : Collector) : Nat := c.sessions.size

def setRecord (session : String) (r : SessionRecord) (c : Collector) : Collector :=
  { c with sessions := c.sessions.insert session r }

/-- The tests to plan for a registration. There is no history to choose by, so all candidates are
    planned. -/
def planned (request : Registration) : Action Error (Collector × σ) (List Cluster) := do
  match request.available with
  | some tests =>
    Action.onFst (.change fun c => { c with known := tests })
    return Cluster.ofCandidates tests
  | none =>
    if request.includeNonImpacted then return []
    else
      let known ← Action.onFst (.look Collector.known)
      return Cluster.ofCandidates known

def register (setup : Setup σ) (request : Registration) : Action Error (Collector × σ) Plan := do
  let clusters ← planned request
  let id ← Action.onSnd setup.freshId.lift
  let snapshot ← Action.onFst (.step fun c =>
    ((c.arena.allocate id).1, { c with arena := (c.arena.allocate id).2 }))
  Action.onSnd (setup.recorder.reset snapshot).lift
  Action.onFst (.change (setRecord id {}))
  Action.log .debug s!"Registered session {id} with {clusters.length} clusters"
  return ⟨id, clusters⟩

def session (id : String) : Action Error (Collector × σ) SessionRecord := do
  let found ← Action.onFst (.look fun c => c.sessions.get? id)
  match found with
  | some r => return r
  | none => .fail (.disagreement (.unknownSession id))

def snapshot (id : String) : Action Error (Collector × σ) Snapshot := do
  let found ← Action.onFst (.look fun c => c.arena.get? id)
  match found with
  | some s => return s
  | none => .fail (.disagreement (.unknownSession id))

def startTest (setup : Setup σ) (id path : String) : Action Error (Collector × σ) Unit := do
  let record ← session id
  match record.active with
  | some active => .fail (.disagreement (.alreadyRunning id active))
  | none =>
    let snapshot ← snapshot id
    Action.onSnd (setup.recorder.beginWindow snapshot path)
    Action.onFst (.change (setRecord id { record with active := some path }))

/-- The test counts as over before the recorder is asked, whatever the recorder answers. -/
def endTest (setup : Setup σ) (id : String) (execution : Execution) (retrieve : Bool) :
    Action Error (Collector × σ) (Option Attribution) := do
  let record ← session id
  if record.active ≠ some execution.path then
    .fail (.disagreement (.notRunning execution.path id))
  else
    let snapshot ← snapshot id
    Action.onFst (.change (setRecord id { record with active := none }))
    let coverage ← Action.onSnd (setup.recorder.endWindow snapshot execution.path)
    Action.onFst (.change (setRecord id
      { active := none, executions := record.executions ++ [execution] }))
    if retrieve then
      return some
        { path := execution.path, status := some execution.status, message := execution.message,
          coverage := coverage }
    else return none

def executionsName (epochMillis : Int) : String :=
  s!"{Artifact.Kind.testExecution.stem}-{epochMillis}.{Artifact.Kind.testExecution.extension}"

def executionsText (executions : List Execution) : String :=
  (Json.Value.list (executions.map Execution.toJson)).pretty

def writeExecutions (setup : Setup σ) (executions : List Execution) :
    Action Error σ (Option Files.Path) := do
  match setup.artifactDirectory with
  | none => return none
  | some directory =>
    (setup.disk.ensureDirectory directory).mapError .io
    let now ← setup.clock.epochMillis.lift
    let path := directory.child (Text.Utf8.encode (executionsName now))
    (setup.disk.write path (Text.Utf8.encode (executionsText executions))).mapError .io
    return some path

def deliver (setup : Setup σ) (id : String) (snapshot : Snapshot) : Action Error σ Unit := do
  let report ← setup.recorder.buildReport snapshot setup.format
  let delivered ← (setup.store.store report).mapError .delivery
  Action.log .info s!"Report for session {id} {delivered.text}"

/-- The session is over whatever happens next. Its executions are an extra: if they cannot be
    written, the report is still delivered. -/
def endRun (setup : Setup σ) (id : String) (upload : Bool) :
    Action Error (Collector × σ) Unit := do
  let record ← session id
  Action.onFst (.change fun c => { c with sessions := c.sessions.erase id })
  let snapshot ← snapshot id
  Action.onFst (.change fun c => { c with arena := (c.arena.release id).2 })
  match ← (Action.onSnd (writeExecutions setup record.executions)).attempt with
  | .ok (some path) => Action.log .info s!"Wrote test executions to {path.display}"
  | .ok none => pure ()
  | .error e =>
    Action.log .warn
      s!"Could not write test executions of session {id}: {Error.message e}"
  if upload then Action.onSnd (deliver setup id snapshot)

def service (setup : Setup σ) : Service (Collector × σ) where
  description := "in-process collector delivering to " ++ setup.store.description
  register := register setup
  startTest := startTest setup
  endTest := endTest setup
  endRun := endRun setup

end Collector

end TestImpact
