import TestImpact.Proofs.Retry
import TestImpact.Session

namespace TestImpact

open Action

variable {σ τ : Type}

/-- The stopwatch always answers. -/
def Clock.Steady (c : Clock σ) : Prop := ∀ s, ∃ now s', c.stopwatch.outcome s = (.ok now, s')

def Clock.onFst (c : Clock σ) : Clock (σ × τ) := ⟨c.epochMillis.onFst, c.stopwatch.onFst⟩

def Clock.onSnd (c : Clock σ) : Clock (τ × σ) := ⟨c.epochMillis.onSnd, c.stopwatch.onSnd⟩

theorem Clock.Steady.read_onFst {c : Clock σ} (steady : c.Steady) (s : σ) (t : τ) :
    ∃ now s', c.onFst.stopwatch.outcome (s, t) = (.ok now, s', t) := by
  obtain ⟨now, s', read⟩ := steady s
  exact ⟨now, s', by simp [Clock.onFst, read]⟩

theorem Clock.Steady.onFst {c : Clock σ} (steady : c.Steady) :
    (c.onFst : Clock (σ × τ)).Steady := by
  rintro ⟨s, t⟩
  obtain ⟨now, s', read⟩ := steady.read_onFst s t
  exact ⟨now, (s', t), read⟩

theorem Clock.Steady.onSnd {c : Clock σ} (steady : c.Steady) :
    (c.onSnd : Clock (τ × σ)).Steady := by
  rintro ⟨t, s⟩
  obtain ⟨now, s', read⟩ := steady s
  exact ⟨now, (t, s'), by simp [Clock.onSnd, read]⟩

namespace Session

def CanStart (s : Session) (path : String) : Prop :=
  s.ended = false ∧ s.active = none ∧ path ∉ s.finished

def CanEnd (s : Session) : Prop := s.ended = false ∧ s.active = none

instance (s : Session) (path : String) : Decidable (s.CanStart path) :=
  inferInstanceAs (Decidable (_ ∧ _ ∧ _))

instance (s : Session) : Decidable s.CanEnd := inferInstanceAs (Decidable (_ ∧ _))

def begun (s : Session) (path : String) : Session := { s with active := some path }

def past (s : Session) (path : String) : Session :=
  { s with active := none, finished := s.finished.insert path }

def closed (s : Session) : Session := { s with ended := true }

theorem startTest_refused (client : Client σ) {path : String} {s : Session} (w : σ)
    (refused : ¬ s.CanStart path) :
    ∃ m, (startTest client path).outcome (s, w) = (.error (.failed (.misuse m)), s, w) := by
  cases ended : s.ended with
  | true => exact ⟨.startAfterEnd s.id, by simp [startTest, ended]⟩
  | false =>
    cases busy : s.active with
    | some active => exact ⟨.startWhileRunning path s.id active, by simp [startTest, ended, busy]⟩
    | none =>
      have ran : path ∈ s.finished :=
        Decidable.byContradiction fun fresh => refused ⟨ended, busy, fresh⟩
      exact ⟨.alreadyRan path s.id, by simp [startTest, ended, busy, ran]⟩

theorem startTest_accepted (client : Client σ) {path : String} {s : Session} (w : σ)
    (accepted : s.CanStart path) :
    (startTest client path).outcome (s, w) =
      match (withRetry "start test" (client.service.startTest s.id path)).outcome w with
      | (.error h, w') => (.error h, s, w')
      | (.ok _, w') =>
        match client.clock.stopwatch.outcome w' with
        | (.ok started, w'') => (.ok ⟨path, started⟩, s.begun path, w'')
        | (.error _, w'') => (.error .unwound, s.begun path, w'') := by
  obtain ⟨going, busy, fresh⟩ := accepted
  rcases asked : (withRetry "start test" (client.service.startTest s.id path)).outcome w
    with ⟨h | _, w'⟩
  · simp [startTest, going, busy, fresh, asked]
  · rcases read : client.clock.stopwatch.outcome w' with ⟨h | started, w''⟩ <;>
      simp [startTest, begun, going, busy, fresh, asked, read]

def report (test : RunningTest) (verdict : Verdict) (now : Nat) : Execution :=
  { path := test.path, duration := elapsed test.started now, status := verdict.status,
    message := verdict.message }

theorem outcome_finish (client : Client σ) (test : RunningTest) (verdict : Verdict)
    (retrieve : Bool) (s : Session) (w : σ) :
    (finish client test verdict retrieve).outcome (s, w) =
      match client.clock.stopwatch.outcome w with
      | (.error _, w') => (.error .unwound, s.past test.path, w')
      | (.ok now, w') =>
        let asked := (withRetry "end test"
          (client.service.endTest s.id (report test verdict now) retrieve)).outcome w'
        (asked.1, s.past test.path, asked.2) := by
  rcases read : client.clock.stopwatch.outcome w with ⟨h | now, w'⟩
  · simp [finish, past, read]
  · rcases asked : (withRetry "end test"
      (client.service.endTest s.id (report test verdict now) retrieve)).outcome w' with ⟨h | _, w''⟩
    <;> simp only [report] at asked <;> simp [finish, past, report, read, asked]

theorem endTest_state (client : Client σ) (test : RunningTest) (verdict : Verdict)
    (p : Session × σ) :
    ((endTest client test verdict).outcome p).2 =
      ((finish client test verdict false).outcome p).2 := by
  rcases ended : (finish client test verdict false).outcome p with ⟨_ | _, p'⟩ <;>
    simp [endTest, ended]

theorem endTestWithCoverage_state (client : Client σ) (test : RunningTest) (verdict : Verdict)
    (p : Session × σ) :
    ((endTestWithCoverage client test verdict).outcome p).2 =
      ((finish client test verdict true).outcome p).2 := by
  rcases ended : (finish client test verdict true).outcome p with ⟨_ | (_ | _), p'⟩ <;>
    simp [endTestWithCoverage, ended]

def ending (client : Client σ) (test : RunningTest) (verdict : Verdict) :
    Bool → Action Error (Session × σ) Unit
  | false => endTest client test verdict
  | true => (fun _ => ()) <$> endTestWithCoverage client test verdict

def received (test : RunningTest) : Bool → Option Attribution → Except (Halt Error) Unit
  | true, none => .error (.failed (.disagreement (.noCoverage test.path)))
  | _, _ => .ok ()

theorem outcome_ending (client : Client σ) (test : RunningTest) (verdict : Verdict)
    (retrieve : Bool) (p : Session × σ) :
    (ending client test verdict retrieve).outcome p =
      let finished := (finish client test verdict retrieve).outcome p
      (finished.1.bind (received test retrieve), finished.2) := by
  cases retrieve with
  | false =>
    rcases ran : (finish client test verdict false).outcome p with ⟨h | info, p'⟩ <;>
      simp [ending, endTest, ran, received, Except.bind]
  | true =>
    rcases ran : (finish client test verdict true).outcome p with ⟨h | (_ | info), p'⟩ <;>
      simp [ending, endTestWithCoverage, ran, received, Except.bind]

theorem endRun_refused (client : Client σ) (upload : Bool) {s : Session} (w : σ)
    (refused : ¬ s.CanEnd) :
    ∃ m, (endRun client upload).outcome (s, w) = (.error (.failed (.misuse m)), s, w) := by
  cases ended : s.ended with
  | true => exact ⟨.endAfterEnd s.id, by simp [endRun, ended]⟩
  | false =>
    cases busy : s.active with
    | some active => exact ⟨.endWhileRunning s.id active, by simp [endRun, ended, busy]⟩
    | none => exact absurd ⟨ended, busy⟩ refused

theorem endRun_accepted (client : Client σ) (upload : Bool) {s : Session} (w : σ)
    (accepted : s.CanEnd) :
    (endRun client upload).outcome (s, w) =
      let asked := (withRetry "end test run" (client.service.endRun s.id upload)).outcome w
      (asked.1, s.closed, asked.2) := by
  obtain ⟨going, busy⟩ := accepted
  rcases asked : (withRetry "end test run" (client.service.endRun s.id upload)).outcome w
    with ⟨h | _, w'⟩ <;> simp [endRun, closed, going, busy, asked]

end Session

end TestImpact
