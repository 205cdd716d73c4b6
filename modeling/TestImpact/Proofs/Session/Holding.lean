import TestImpact.Proofs.Session.Operations

namespace TestImpact

open Action

variable {σ : Type}

/-- A session in the hands of its owner, with the running test that is out, if one is. -/
structure Holding where
  session : Session
  running : Option RunningTest := none

inductive Move
  | start (path : String)
  /-- Ends the running test, with its coverage or without. -/
  | finish (verdict : Verdict) (retrieve : Bool)
  /-- Lets go of the running test without ending it. -/
  | letGo
  | endRun (upload : Bool)
  deriving DecidableEq, Repr

def RunningTest.finish (client : Client σ) (test : RunningTest) (verdict : Verdict) :
    Bool → Session × σ → Session × σ
  | false, p => ((Session.endTest client test verdict).outcome p).2
  | true, p => ((Session.endTestWithCoverage client test verdict).outcome p).2

theorem RunningTest.finish_eq (client : Client σ) (test : RunningTest) (verdict : Verdict)
    (retrieve : Bool) (p : Session × σ) :
    test.finish client verdict retrieve p =
      ((Session.finish client test verdict retrieve).outcome p).2 := by
  cases retrieve with
  | false => exact Session.endTest_state client test verdict p
  | true => exact Session.endTestWithCoverage_state client test verdict p

namespace Holding

def opened (id : String) (clusters : List Cluster) : Holding := { session := { id, clusters } }

/-- Makes a move. A running test borrows the session: while it is out, only it can be used, and
    without it no test can be ended. Moves that this rules out change nothing. -/
def play (client : Client σ) : Move → Holding → σ → Holding × σ
  | .start path, ⟨s, none⟩, w =>
    let (result, s', w') := (Session.startTest client path).outcome (s, w)
    (⟨s', result.toOption⟩, w')
  | .finish verdict retrieve, ⟨s, some test⟩, w =>
    let (s', w') := test.finish client verdict retrieve (s, w)
    (⟨s', none⟩, w')
  | .letGo, ⟨s, some _⟩, w => (⟨s, none⟩, w)
  | .endRun upload, ⟨s, none⟩, w =>
    let (_, s', w') := (Session.endRun client upload).outcome (s, w)
    (⟨s', none⟩, w')
  | _, h, w => (h, w)

def Accepts (h : Holding) : Move → Prop
  | .start path => h.running = none ∧ h.session.CanStart path
  | .finish _ _ => h.running.isSome
  | .letGo => False
  | .endRun _ => h.running = none ∧ h.session.CanEnd

/-- A running test that is out is the session's active test; the active test did not run before;
    and a session that is over has none. -/
structure Sound (h : Holding) : Prop where
  running_active : ∀ test, h.running = some test → h.session.active = some test.path
  active_fresh : ∀ path, h.session.active = some path → path ∉ h.session.finished
  ended_idle : h.session.ended = true → h.session.active = none

theorem play_keeps {client : Client σ} {kept : σ → Prop}
    (stopwatch : ∀ w, kept w → kept (client.clock.stopwatch.outcome w).2)
    (startTest : ∀ id path w, kept w → kept ((client.service.startTest id path).outcome w).2)
    (endTest : ∀ id execution retrieve w, kept w →
      kept ((client.service.endTest id execution retrieve).outcome w).2)
    (endRun : ∀ id upload w, kept w → kept ((client.service.endRun id upload).outcome w).2)
    (m : Move) (h : Holding) {w : σ} (start : kept w) : kept (h.play client m w).2 := by
  obtain ⟨s, running⟩ := h
  cases m with
  | start path =>
    cases running with
    | some test => exact start
    | none =>
      by_cases accepted : s.CanStart path
      · simp only [play, Session.startTest_accepted client w accepted]
        have still := withRetry_keeps "start test" (startTest s.id path) start
        rcases asked : (withRetry "start test" (client.service.startTest s.id path)).outcome w
          with ⟨h | _, w'⟩ <;> rw [asked] at still
        · exact still
        · have since := stopwatch w' still
          rcases read : client.clock.stopwatch.outcome w' with ⟨_ | now, w''⟩ <;>
            rw [read] at since <;> simpa only [read] using since
      · obtain ⟨m, refused⟩ := Session.startTest_refused client w accepted
        simp only [play, refused]
        exact start
  | finish verdict retrieve =>
    cases running with
    | none => exact start
    | some test =>
      simp only [play, RunningTest.finish_eq, Session.outcome_finish]
      have passed := stopwatch w start
      rcases read : client.clock.stopwatch.outcome w with ⟨_ | now, w'⟩ <;> rw [read] at passed
      · exact passed
      · exact withRetry_keeps _ (endTest s.id _ retrieve) passed
  | letGo => cases running <;> exact start
  | endRun upload =>
    cases running with
    | some test => exact start
    | none =>
      by_cases accepted : s.CanEnd
      · simp only [play, Session.endRun_accepted client upload w accepted]
        exact withRetry_keeps _ (endRun s.id upload) start
      · obtain ⟨m, refused⟩ := Session.endRun_refused client upload w accepted
        simp only [play, refused]
        exact start

theorem opened_sound (id : String) (clusters : List Cluster) : (opened id clusters).Sound :=
  ⟨nofun, nofun, fun _ => rfl⟩

end Holding

end TestImpact
