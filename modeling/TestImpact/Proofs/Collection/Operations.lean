import TestImpact.Collection.Collector
import TestImpact.Proofs.Retry

namespace TestImpact

open Action

variable {σ : Type}

theorem Arena.get?_allocate (a : Arena) (session other : String) :
    (a.allocate session).2.get? other =
      if other = session then some (a.allocate session).1 else a.get? other := by
  unfold allocate
  cases live : a.get? session with
  | some s =>
    by_cases same : other = session
    · simp [same, live]
    · simp [same]
  | none => exact Table.get?_insert a.live session other _

theorem Arena.get?_release (a : Arena) (session other : String) :
    (a.release session).2.get? other = if other = session then none else a.get? other :=
  Table.get?_erase a.live session other

namespace Collector

def announced (request : Registration) (c : Collector) : Collector :=
  { c with known := request.available.getD c.known }

def planFor (request : Registration) (c : Collector) : List Cluster :=
  match request.available with
  | some tests => Cluster.ofCandidates tests
  | none => if request.includeNonImpacted then [] else Cluster.ofCandidates c.known

def admitted (id : String) (c : Collector) : Collector :=
  { c with arena := (c.arena.allocate id).2 }

def without (id : String) (c : Collector) : Collector :=
  { c with sessions := c.sessions.erase id, arena := (c.arena.release id).2 }

@[simp] theorem sessions_announced (request : Registration) (c : Collector) :
    (c.announced request).sessions = c.sessions := rfl

@[simp] theorem arena_announced (request : Registration) (c : Collector) :
    (c.announced request).arena = c.arena := rfl

@[simp] theorem sessions_admitted (id : String) (c : Collector) :
    (c.admitted id).sessions = c.sessions := rfl

@[simp] theorem arena_setRecord (id : String) (r : SessionRecord) (c : Collector) :
    (c.setRecord id r).arena = c.arena := rfl

@[simp] theorem get?_setRecord (id other : String) (r : SessionRecord) (c : Collector) :
    (c.setRecord id r).sessions.get? other =
      if other = id then some r else c.sessions.get? other :=
  Table.get?_insert c.sessions id other r

@[simp] theorem get?_admitted (id other : String) (c : Collector) :
    (c.admitted id).arena.get? other =
      if other = id then some (c.arena.allocate id).1 else c.arena.get? other :=
  c.arena.get?_allocate id other

@[simp] theorem sessions_without (id other : String) (c : Collector) :
    (c.without id).sessions.get? other = if other = id then none else c.sessions.get? other :=
  Table.get?_erase c.sessions id other

@[simp] theorem arena_without (id other : String) (c : Collector) :
    (c.without id).arena.get? other = if other = id then none else c.arena.get? other :=
  c.arena.get?_release id other

def unknown (id : String) : Halt Error := .failed (.disagreement (.unknownSession id))

theorem outcome_planned (request : Registration) (c : Collector) (w : σ) :
    (planned request).outcome (c, w) = (.ok (c.planFor request), c.announced request, w) := by
  unfold planned planFor announced
  cases request.available with
  | some tests => simp
  | none => by_cases all : request.includeNonImpacted <;> simp [all]

theorem outcome_register (setup : Setup σ) (request : Registration) (c : Collector) (w : σ) :
    (register setup request).outcome (c, w) =
      match setup.freshId.outcome w with
      | (.error _, w') => (.error .unwound, c.announced request, w')
      | (.ok id, w') =>
        match (setup.recorder.reset (c.arena.allocate id).1).outcome w' with
        | (.error _, w'') => (.error .unwound, (c.announced request).admitted id, w'')
        | (.ok _, w'') =>
          (.ok ⟨id, c.planFor request⟩, ((c.announced request).admitted id).setRecord id {},
            w'') := by
  rcases fresh : setup.freshId.outcome w with ⟨h | id, w'⟩
  · simp [register, outcome_planned, fresh]
  · rcases reset : (setup.recorder.reset (c.arena.allocate id).1).outcome w' with ⟨h | _, w''⟩ <;>
      simp [register, outcome_planned, fresh, reset, admitted]

@[simp] theorem outcome_session (id : String) (c : Collector) (w : σ) :
    (session id).outcome (c, w) =
      match c.sessions.get? id with
      | some r => (.ok r, c, w)
      | none => (.error (unknown id), c, w) := by
  cases found : c.sessions.get? id <;> simp [session, unknown, found]

@[simp] theorem outcome_snapshot (id : String) (c : Collector) (w : σ) :
    (snapshot id).outcome (c, w) =
      match c.arena.get? id with
      | some s => (.ok s, c, w)
      | none => (.error (unknown id), c, w) := by
  cases found : c.arena.get? id <;> simp [snapshot, unknown, found]

theorem outcome_startTest (setup : Setup σ) (id path : String) (c : Collector) (w : σ) :
    (startTest setup id path).outcome (c, w) =
      match c.sessions.get? id with
      | none => (.error (unknown id), c, w)
      | some ⟨some active, _⟩ =>
        (.error (.failed (.disagreement (.alreadyRunning id active))), c, w)
      | some ⟨none, executions⟩ =>
        match c.arena.get? id with
        | none => (.error (unknown id), c, w)
        | some s =>
          match (setup.recorder.beginWindow s path).outcome w with
          | (.error h, w') => (.error h, c, w')
          | (.ok _, w') => (.ok (), c.setRecord id ⟨some path, executions⟩, w') := by
  rcases found : c.sessions.get? id with _ | ⟨_ | active, executions⟩
  · simp [startTest, found]
  · cases held : c.arena.get? id with
    | none => simp [startTest, found, held]
    | some s =>
      rcases begun : (setup.recorder.beginWindow s path).outcome w with ⟨h | _, w'⟩ <;>
        simp [startTest, found, held, begun]
  · simp [startTest, found]

def attribution (execution : Execution) (coverage : String) : Attribution :=
  { path := execution.path, status := some execution.status, message := execution.message,
    coverage := coverage }

theorem outcome_endTest (setup : Setup σ) (id : String) (execution : Execution) (retrieve : Bool)
    (c : Collector) (w : σ) :
    (endTest setup id execution retrieve).outcome (c, w) =
      match c.sessions.get? id with
      | none => (.error (unknown id), c, w)
      | some r =>
        if r.active = some execution.path then
          match c.arena.get? id with
          | none => (.error (unknown id), c, w)
          | some s =>
            match (setup.recorder.endWindow s execution.path).outcome w with
            | (.error h, w') => (.error h, c.setRecord id { r with active := none }, w')
            | (.ok coverage, w') =>
              (.ok (if retrieve then some (attribution execution coverage) else none),
                (c.setRecord id { r with active := none }).setRecord id
                  ⟨none, r.executions ++ [execution]⟩, w')
        else (.error (.failed (.disagreement (.notRunning execution.path id))), c, w) := by
  rcases found : c.sessions.get? id with _ | r
  · simp [endTest, found]
  · by_cases running : r.active = some execution.path
    · cases held : c.arena.get? id with
      | none => simp [endTest, found, running, held]
      | some s =>
        rcases closed : (setup.recorder.endWindow s execution.path).outcome w with ⟨h | _, w'⟩
        · simp [endTest, found, running, held, closed]
        · cases retrieve <;> simp [endTest, attribution, found, running, held, closed]
    · simp [endTest, found, running]

theorem outcome_endRun (setup : Setup σ) (id : String) (upload : Bool) (c : Collector) (w : σ) :
    (endRun setup id upload).outcome (c, w) =
      match c.sessions.get? id with
      | none => (.error (unknown id), c, w)
      | some r =>
        match c.arena.get? id with
        | none => (.error (unknown id), { c with sessions := c.sessions.erase id }, w)
        | some s =>
          match (writeExecutions setup r.executions).outcome w with
          | (.error .unwound, w') => (.error .unwound, c.without id, w')
          | (_, w') =>
            if upload then
              let delivered := (deliver setup id s).outcome w'
              (delivered.1, c.without id, delivered.2)
            else (.ok (), c.without id, w') := by
  rcases found : c.sessions.get? id with _ | r
  · simp [endRun, found]
  · cases held : c.arena.get? id with
    | none => simp [endRun, found, held]
    | some s =>
      rcases written : (writeExecutions setup r.executions).outcome w with ⟨(e | _) | (_ | p), w'⟩
      all_goals
        cases upload <;> simp [endRun, without, found, held, written]

/-- Surroundings that answer every second time only, and where ids are counted. -/
def Setup.everySecond : Setup Nat where
  recorder :=
    { reset := fun _ => .done ()
      beginWindow := fun _ _ => .everySecond ()
      endWindow := fun _ _ => .everySecond "src/a.c:1-2"
      buildReport := fun _ _ => .done "report" }
  store := ⟨"nowhere", fun _ => .done (.uploaded "nowhere")⟩
  format := .testwise
  disk := ⟨fun _ => .done (), fun _ _ => .done (), fun _ => .done ""⟩
  clock := ⟨.done 0, .look id⟩
  freshId := .step fun n => (toString n, n + 1)

end Collector

end TestImpact
