import TestImpact.Proofs.Collection.CompleteRun
import TestImpact.Proofs.Collection.Responses

namespace TestImpact

open Action
open Collector (Operation Answer)

variable {σ α : Type}

structure Exchange where
  request : Web.Request
  answer : Except (Halt Web.TransportFault) Web.Response

def Web.Http.noted (http : Web.Http σ) : Web.Http (σ × List Exchange) where
  send request := (http.send request).noted (⟨request, ·⟩)

def Collector.Operation.Reads : Operation → Prop
  | .register _ => True
  | .endTest _ _ retrieve => retrieve = true
  | .startTest .. | .endRun .. => False

/-- Nobody gets to its end: it breaks off, or it is longer than what is read of it. -/
def Web.Body.Unreadable (b : Web.Body) : Prop := ∃ reason, b.text = .error reason

namespace Exchange

/-- Nothing came back that the operation can go by: there was no response, or one with a body that
    the operation reads and cannot. -/
def Lost (op : Operation) (e : Exchange) : Prop :=
  match e.answer with
  | .ok response => response.status < 400 ∧ op.Reads ∧ response.body.Unreadable
  | .error (.failed _) => True
  | .error .unwound => False

def concluded (a : Agent) (op : Operation) (e : Exchange) : Collector.Result :=
  match e.answer with
  | .ok response => a.concluded op response
  | .error (.failed fault) =>
    .error (.failed (.connectivity (a.endpoint op).text (fault.text e.request.url)))
  | .error .unwound => .error .unwound

end Exchange

namespace Agent

theorem understood_of_unreadable (a : Agent) {response : Web.Response} {op : Operation}
    (reads : op.Reads) (unreadable : response.body.Unreadable) :
    ∃ message,
      a.understood response op = .error (.connectivity (a.endpoint op).text message) := by
  obtain ⟨reason, unreadable⟩ := unreadable
  have read {β : Type} (r : Json.Reader β) (url : Web.Url) :
      ∃ message, answer r url response = .error (.connectivity url.text message) := by
    unfold answer
    rw [unreadable]
    exact ⟨_, rfl⟩
  cases op with
  | register request =>
    obtain ⟨message, closed⟩ := read Plan.reader a.registerEndpoint
    exact ⟨message, by rw [understood, closed]; rfl⟩
  | startTest id path => exact reads.elim
  | endTest id execution retrieve =>
    cases reads
    obtain ⟨message, closed⟩ := read Attribution.reader (a.endEndpoint id execution.path)
    exact ⟨message, by rw [understood, closed]; rfl⟩
  | endRun id upload => exact reads.elim

theorem understood_error (a : Agent) {response : Web.Response} {op : Operation} {error : Error}
    (heard : ¬ (op.Reads ∧ response.body.Unreadable))
    (failed : a.understood response op = .error error) : ∃ d, error = .disagreement d := by
  have read {β : Type} (r : Json.Reader β) (f : β → Answer) (url : Web.Url) (reads : op.Reads)
      (failed : (answer r url response).map f = .error error) : ∃ d, error = .disagreement d := by
    unfold answer at failed
    cases body : response.body.text with
    | error reason => exact absurd ⟨reads, reason, body⟩ heard
    | ok text =>
      simp only [body] at failed
      cases parsed : Json.read r (.ofString text) with
      | ok value => simp [parsed, Except.map] at failed
      | error fault => exact ⟨.unexpectedAnswer url.text fault, by simpa [parsed, Except.map]
          using failed.symm⟩
  cases op with
  | register request => exact read Plan.reader .plan _ trivial failed
  | startTest id path => cases failed
  | endTest id execution retrieve =>
    cases retrieve with
    | false => cases failed
    | true => exact read Attribution.reader (fun info => .attribution (some info)) _ rfl failed
  | endRun id upload => cases failed

end Agent

namespace Exchange

theorem concluded_of_lost (a : Agent) {op : Operation} {e : Exchange} (lost : e.Lost op) :
    ∃ message,
      e.concluded a op = .error (.failed (.connectivity (a.endpoint op).text message)) := by
  rcases e with ⟨request, (fault | _) | response⟩
  · exact ⟨_, rfl⟩
  · exact lost.elim
  · obtain ⟨right, reads, unreadable⟩ := lost
    obtain ⟨message, closed⟩ := a.understood_of_unreadable reads unreadable
    exact ⟨message, by simp [concluded, Agent.concluded, Web.firstErrorStatus, closed,
      Nat.not_le.mpr right]⟩

theorem concluded_of_heard (a : Agent) {op : Operation} {e : Exchange} {error : Error}
    (heard : ¬ e.Lost op) (failed : e.concluded a op = .error (.failed error)) :
    (∃ status body, error = .agent (a.endpoint op).text status body) ∨
      ∃ d, error = .disagreement d := by
  rcases e with ⟨request, (fault | _) | response⟩
  · exact absurd trivial heard
  · cases failed
  · simp only [concluded, Agent.concluded] at failed
    by_cases wrong : Web.firstErrorStatus ≤ response.status
    · rw [if_pos wrong] at failed
      cases failed
      exact .inl ⟨_, _, rfl⟩
    · rw [if_neg wrong] at failed
      refine .inr ?_
      cases understood : a.understood response op with
      | ok answer => simp [understood] at failed
      | error error' =>
        simp only [understood, mapError_error, Except.error.injEq, Halt.failed.injEq] at failed
        subst failed
        exact a.understood_error
          (fun unread => heard ⟨Nat.not_le.mp wrong, unread.1, unread.2⟩) understood

end Exchange

theorem Exchange.not_connectivity {a : Agent} {op : Operation} {e : Exchange} {error : Error}
    (heard : ¬ e.Lost op) (failed : e.concluded a op = .error (.failed error)) :
    error.isConnectivity = false := by
  rcases concluded_of_heard a heard failed with ⟨_, _, rfl⟩ | ⟨_, rfl⟩ <;> rfl

/-- How many requests an operation is worth, which they are, and what it makes of the last. -/
structure Conducted (a : Agent) (op : Operation) (name : String) (exchanges : List Exchange)
    (result : Except (Halt Error) Unit) : Prop where
  count : exchanges.length = 1 ∨ exchanges.length = 2
  request : ∀ e ∈ exchanges, e.request = a.request op
  second : exchanges.length = 2 ↔ ∃ first, exchanges.head? = some first ∧ first.Lost op
  status : ∀ e after response, e :: after <:+ exchanges → e.answer = .ok response →
    400 ≤ response.status →
    after = [] ∧ result = .error (.failed
      (.agent (a.endpoint op).text response.status response.body.textOrNothing))
  heard : ∀ e, exchanges.getLast? = some e → ¬ e.Lost op →
    result = (e.concluded a op).map fun _ => ()
  exhausted : (∃ operation last, result = .error (.failed (.retriesExhausted operation last))) ↔
    exchanges.length = 2 ∧ ∀ e ∈ exchanges, e.Lost op
  wrapped : ∀ operation last, result = .error (.failed (.retriesExhausted operation last)) →
    operation = name ∧
      ∃ e, exchanges.getLast? = some e ∧ e.concluded a op = .error (.failed last)

section Retries

variable {a : Agent} {op : Operation} {name : String}

theorem Exchange.concluded_ne_exhausted {e : Exchange} (heard : ¬ e.Lost op) (operation : String)
    (last : Error) :
    (e.concluded a op).map (fun _ => ()) ≠
      .error (.failed (.retriesExhausted operation last)) := by
  intro same
  cases failed : e.concluded a op with
  | ok answer => simp [failed, Except.map] at same
  | error h =>
    simp only [failed, Except.map, Except.error.injEq] at same
    subst same
    rcases concluded_of_heard a heard failed with ⟨_, _, other⟩ | ⟨_, other⟩ <;> cases other

theorem Exchange.not_lost_of_status {e : Exchange} {response : Web.Response}
    (answered : e.answer = .ok response) (wrong : 400 ≤ response.status) : ¬ e.Lost op := by
  unfold Lost
  rw [answered]
  exact fun lost => absurd wrong (Nat.not_le.mpr lost.1)

theorem Exchange.concluded_of_status {e : Exchange} {response : Web.Response}
    (answered : e.answer = .ok response) (wrong : 400 ≤ response.status) :
    e.concluded a op = .error (.failed
      (.agent (a.endpoint op).text response.status response.body.textOrNothing)) := by
  unfold concluded
  rw [answered]
  exact if_pos wrong

theorem Conducted.of_heard (before : List Exchange) {e : Exchange} (short : before.length ≤ 1)
    (request : ∀ e' ∈ before ++ [e], e'.request = a.request op)
    (lost : ∀ first ∈ before, first.Lost op) (heard : ¬ e.Lost op) :
    Conducted a op name (before ++ [e]) ((e.concluded a op).map fun _ => ()) where
  count := by
    simp only [List.length_append, List.length_singleton]
    omega
  request := request
  second := by
    rcases before with _ | ⟨first, _ | ⟨_, _⟩⟩
    · simpa using heard
    · simpa using lost
    · simp at short
  status e' after response suffix answered wrong := by
    have alive : ¬ e'.Lost op := Exchange.not_lost_of_status answered wrong
    obtain ⟨rfl, rfl⟩ : e' = e ∧ after = [] := by
      rcases before with _ | ⟨first, _ | ⟨_, _⟩⟩
      · simpa [List.suffix_cons_iff] using suffix
      · rcases List.suffix_cons_iff.mp suffix with whole | last
        · cases whole
          exact absurd (lost _ (List.mem_singleton.mpr rfl)) alive
        · simpa [List.suffix_cons_iff] using last
      · simp at short
    exact ⟨rfl, by rw [Exchange.concluded_of_status answered wrong]; rfl⟩
  heard e' last _ := by
    obtain rfl : e = e' := by simpa using last
    rfl
  exhausted := iff_of_false
    (fun ⟨operation, last, same⟩ => Exchange.concluded_ne_exhausted heard operation last same)
    (fun ⟨_, all⟩ => heard (all e (by simp)))
  wrapped operation last same :=
    absurd same (Exchange.concluded_ne_exhausted heard operation last)

theorem Conducted.of_exhausted {first second : Exchange} {error : Error}
    (request : ∀ e ∈ [first, second], e.request = a.request op) (lost : first.Lost op)
    (lost' : second.Lost op) (last : second.concluded a op = .error (.failed error)) :
    Conducted a op name [first, second] (.error (.failed (.retriesExhausted name error))) where
  count := .inr rfl
  request := request
  second := by simpa using lost
  status e after response suffix answered wrong := by
    have alive : ¬ e.Lost op := Exchange.not_lost_of_status answered wrong
    have member : e ∈ [first, second] := suffix.mem List.mem_cons_self
    rcases List.mem_pair.mp member with rfl | rfl <;> exact absurd ‹_› alive
  heard e same alive := by
    obtain rfl : second = e := by simpa using same
    exact absurd lost' alive
  exhausted := iff_of_true ⟨name, error, rfl⟩ ⟨rfl, by simp [lost, lost']⟩
  wrapped operation wrapped same := by
    cases same
    exact ⟨rfl, second, rfl, last⟩

theorem Agent.outcome_perform_noted (a : Agent) (http : Web.Http σ) (op : Operation) (w : σ)
    (past : List Exchange) :
    (a.perform http.noted op).outcome (w, past) =
      let sent := (http.send (a.request op)).outcome w
      let e : Exchange := ⟨a.request op, sent.1⟩
      (e.concluded a op, sent.2, past ++ [e]) := by
  rw [outcome_perform]
  rcases sent : (http.send (a.request op)).outcome w with ⟨(fault | _) | response, w'⟩ <;>
    simp [Web.Http.noted, Exchange.concluded, sent]

theorem Agent.conducted_perform (a : Agent) (http : Web.Http σ) (op : Operation) (name : String)
    (w : σ) :
    let ran := (withRetry name (a.perform http.noted op)).outcome (w, [])
    Conducted a op name ran.2.2 (ran.1.map fun _ => ()) := by
  intro ran
  let sent (w : σ) : Exchange := ⟨a.request op, ((http.send (a.request op)).outcome w).1⟩
  let next (w : σ) : σ := ((http.send (a.request op)).outcome w).2
  have attempt (w : σ) (past : List Exchange) : (a.perform http.noted op).outcome (w, past) =
      ((sent w).concluded a op, next w, past ++ [sent w]) := a.outcome_perform_noted http op w past
  by_cases lost : (sent w).Lost op
  · obtain ⟨message, failed⟩ := Exchange.concluded_of_lost a lost
    have first := attempt w []
    rw [failed] at first
    have again := withRetry_of_lost name first rfl
    rw [attempt] at again
    by_cases lost' : (sent (next w)).Lost op
    · obtain ⟨message', failed'⟩ := Exchange.concluded_of_lost a lost'
      rw [failed'] at again
      simp only [ran, again]
      exact .of_exhausted (by simp [sent]) lost lost' failed'
    · have same : (withRetry name (a.perform http.noted op)).outcome (w, []) =
          ((sent (next w)).concluded a op, next (next w), [sent w] ++ [sent (next w)]) := by
        rw [again]
        rcases second : (sent (next w)).concluded a op with (error | _) | answer
        · have other := Exchange.not_connectivity lost' second
          simp [Error.afterRetry, other]
        · rfl
        · rfl
      simp only [ran, same]
      exact .of_heard [sent w] (by simp) (by simp [sent]) (by simpa using lost) lost'
  · have once : (withRetry name (a.perform http.noted op)).outcome (w, []) =
        (a.perform http.noted op).outcome (w, []) := by
      refine withRetry_of_heard name fun error failed => ?_
      rw [attempt] at failed
      exact Exchange.not_connectivity lost failed
    simp only [ran, once, attempt]
    exact .of_heard [] (by simp) (by simp [sent]) (by simp) lost

theorem Agent.conducted_of_map {http : Web.Http σ} {x : Action Error (σ × List Exchange) α}
    {f : α → Answer} (one : a.perform http.noted op = f <$> x) (name : String) (w : σ) :
    let ran := (withRetry name x).outcome (w, [])
    Conducted a op name ran.2.2 (ran.1.map fun _ => ()) := by
  have conducted := a.conducted_perform http op name w
  simp only [one, withRetry_map, outcome_map] at conducted
  rcases ran : (withRetry name x).outcome (w, []) with ⟨h | answer, p⟩ <;>
    simpa [ran, Except.map] using conducted

end Retries

inductive Errand
  | enter (opening : Opening)
  | start (path : String)
  | finish (test : RunningTest) (verdict : Verdict) (retrieve : Bool)
  | endRun (upload : Bool)
  deriving DecidableEq, Repr

namespace Errand

def perform (client : Client σ) : Errand → Action Error (Session × σ) Unit
  | enter opening => (fun _ => ()) <$> Action.onSnd (client.openSession opening)
  | start path => (fun _ => ()) <$> Session.startTest client path
  | finish test verdict retrieve => Session.ending client test verdict retrieve
  | endRun upload => Session.endRun client upload

def Accepted (s : Session) : Errand → Prop
  | enter opening => opening.Accepted
  | start path => s.CanStart path
  | finish .. => True
  | endRun _ => s.CanEnd

def operation (baseline : Option Int) (s : Session) (now : Nat) : Errand → Operation
  | enter opening => .register (opening.registration baseline)
  | start path => .startTest s.id path
  | finish test verdict retrieve => .endTest s.id (Session.report test verdict now) retrieve
  | endRun upload => .endRun s.id upload

def name : Errand → String
  | enter _ => "start test run"
  | start _ => "start test"
  | finish .. => "end test"
  | endRun _ => "end test run"

end Errand

def Error.IsRefusal (e : Error) : Prop := (∃ m, e = .misuse m) ∨ ∃ r, e = .refused r

def Agent.client (a : Agent) (http : Web.Http σ) (clock : Clock σ) (baseline : Option Int) :
    Client (σ × List Exchange) := ⟨a.service http.noted, clock.onFst, baseline⟩

theorem Agent.endTest_retrieves (a : Agent) (http : Web.Http σ) (id : String)
    (execution : Execution) (w : σ) :
    (a.endTest http id execution true).Leads (fun info _ => info.isSome = true) (fun _ => True)
      w := by
  unfold Leads
  rcases answered : (http.call (a.endRequest id execution true)).outcome w
    with ⟨(fault | _) | response, w'⟩
  · simp [endTest, answered]
  · simp [endTest, answered]
  · cases read : answer Attribution.reader (a.endEndpoint id execution.path) response <;>
      simp [endTest, answered, read, Action.ofExcept]

theorem Errand.refused (client : Client σ) {errand : Errand} {s : Session}
    (refused : ¬ errand.Accepted s) (w : σ) :
    ∃ e : Error, e.IsRefusal ∧
      (errand.perform client).outcome (s, w) = (.error (.failed e), s, w) := by
  cases errand with
  | enter opening =>
    obtain ⟨r, stays⟩ := client.openSession_refused refused w
    exact ⟨.refused r, .inr ⟨r, rfl⟩, by simp [perform, stays]⟩
  | start path =>
    obtain ⟨m, stays⟩ := Session.startTest_refused client w refused
    exact ⟨.misuse m, .inl ⟨m, rfl⟩, by simp [perform, stays]⟩
  | finish test verdict retrieve => exact absurd trivial refused
  | endRun upload =>
    obtain ⟨m, stays⟩ := Session.endRun_refused client upload w refused
    exact ⟨.misuse m, .inl ⟨m, rfl⟩, stays⟩

section Errands

variable {a : Agent} {http : Web.Http σ} {clock : Clock σ} {baseline : Option Int} {s : Session}

theorem Errand.conducted_enter {opening : Opening} (accepted : opening.Accepted) (w : σ) :
    let after := ((enter opening).perform (a.client http clock baseline)).outcome (s, w, [])
    Conducted a (.register (opening.registration baseline)) "start test run" after.2.2.2
      after.1 := by
  let client := a.client http clock baseline
  let registration := opening.registration client.baseline
  have one : a.perform http.noted (.register registration) =
      .plan <$> client.service.register registration := rfl
  have conducted := a.conducted_of_map one "start test run" w
  have opened := client.outcome_register registration (w, [])
  rw [← client.openSession_accepted accepted] at opened
  simp only [perform, outcome_map, outcome_onSnd]
  rcases ran : (withRetry "start test run" (client.service.register registration)).outcome (w, [])
    with ⟨h | plan, p⟩
  all_goals
    rw [ran] at conducted opened
    rw [opened]
    exact conducted

theorem Errand.conducted_start (steady : clock.Steady) {path : String}
    (accepted : s.CanStart path) (w : σ) :
    let after := ((start path).perform (a.client http clock baseline)).outcome (s, w, [])
    Conducted a (.startTest s.id path) "start test" after.2.2.2 after.1 := by
  let client := a.client http clock baseline
  have one : a.perform http.noted (.startTest s.id path) =
      (fun _ => .done) <$> client.service.startTest s.id path := rfl
  have conducted := a.conducted_of_map one "start test" w
  have started := Session.startTest_accepted client (w, []) accepted
  simp only [perform, outcome_map]
  rcases ran : (withRetry "start test" (client.service.startTest s.id path)).outcome (w, [])
    with ⟨h | _, p⟩
  · rw [ran] at conducted started
    rw [started]
    exact conducted
  · obtain ⟨now, w', read⟩ := steady.read_onFst p.1 p.2
    have watch : client.clock.stopwatch.outcome p = (.ok now, w', p.2) := read
    rw [ran] at conducted started
    simp only [watch] at started
    rw [started]
    exact conducted

theorem Errand.conducted_finish {test : RunningTest} {verdict : Verdict} {retrieve : Bool}
    {now : Nat} {w w' : σ} (read : clock.stopwatch.outcome w = (.ok now, w')) :
    let after :=
      ((finish test verdict retrieve).perform (a.client http clock baseline)).outcome (s, w, [])
    Conducted a (.endTest s.id (Session.report test verdict now) retrieve) "end test"
      after.2.2.2 after.1 := by
  let client := a.client http clock baseline
  let execution := Session.report test verdict now
  have one : a.perform http.noted (.endTest s.id execution retrieve) =
      .attribution <$> client.service.endTest s.id execution retrieve := rfl
  have conducted := a.conducted_of_map one "end test" w'
  have watch : client.clock.stopwatch.outcome (w, []) = (.ok now, w', []) := by
    show (clock.stopwatch.onFst).outcome (w, []) = _
    rw [outcome_onFst, read]
  have finished := Session.outcome_finish client test verdict retrieve s (w, [])
  simp only [watch] at finished
  simp only [perform, Session.outcome_ending]
  rw [finished]
  rcases ran : (withRetry "end test" (client.service.endTest s.id execution retrieve)).outcome
    (w', []) with ⟨h | info, p⟩
  · rw [ran] at conducted
    exact conducted
  · cases retrieve with
    | false =>
      rw [ran] at conducted
      exact conducted
    | true =>
      have once (p : σ × List Exchange) := a.endTest_retrieves http.noted s.id execution p
      have retrieved : (withRetry "end test" (client.service.endTest s.id execution true)).Leads
          (fun info _ => info.isSome = true) (fun _ => True) (w', []) :=
        withRetry_leads (once (w', [])) (fun _ _ => trivial) fun p _ => once p
      unfold Leads at retrieved
      rw [ran] at conducted retrieved
      obtain ⟨info, rfl⟩ := Option.isSome_iff_exists.mp retrieved
      exact conducted

theorem Errand.conducted_endRun {upload : Bool} (accepted : s.CanEnd) (w : σ) :
    let after := ((Errand.endRun upload).perform (a.client http clock baseline)).outcome (s, w, [])
    Conducted a (.endRun s.id upload) "end test run" after.2.2.2 after.1 := by
  let client := a.client http clock baseline
  have one : a.perform http.noted (.endRun s.id upload) =
      (fun _ => .done) <$> client.service.endRun s.id upload := rfl
  have conducted := a.conducted_of_map one "end test run" w
  have ended := Session.endRun_accepted client upload (w, []) accepted
  simp only [perform]
  rw [ended]
  rcases ran : (withRetry "end test run" (client.service.endRun s.id upload)).outcome (w, [])
    with ⟨h | _, p⟩
  all_goals
    rw [ran] at conducted
    exact conducted

end Errands

/-- A call that its session refuses sends nothing. Any other sends one request, or the same request
    twice if it was not heard the first time. -/
theorem requests_of_errand (a : Agent) (http : Web.Http σ) {clock : Clock σ}
    (steady : clock.Steady) (baseline : Option Int) (errand : Errand) (s : Session) (w : σ) :
    let after := (errand.perform (a.client http clock baseline)).outcome (s, w, [])
    (¬ errand.Accepted s →
      after.2.2.2 = [] ∧ ∃ e : Error, after.1 = .error (.failed e) ∧ e.IsRefusal) ∧
    (errand.Accepted s → ∃ now w', clock.stopwatch.outcome w = (.ok now, w') ∧
      Conducted a (errand.operation baseline s now) errand.name after.2.2.2 after.1) := by
  intro after
  constructor
  · intro refused
    obtain ⟨e, refusal, stays⟩ := Errand.refused (a.client http clock baseline) refused (w, [])
    simp only [after]
    exact ⟨by rw [stays], e, by rw [stays], refusal⟩
  · intro accepted
    obtain ⟨now, w', read⟩ := steady w
    refine ⟨now, w', read, ?_⟩
    cases errand with
    | enter opening => exact Errand.conducted_enter accepted w
    | start path => exact Errand.conducted_start steady accepted w
    | finish test verdict retrieve => exact Errand.conducted_finish read
    | endRun upload => exact Errand.conducted_endRun accepted w

/-- A peer that cannot be reached the first time, and is out of order the second. -/
def Agent.outOfOrder : Web.Http Nat where
  send _ n :=
    ⟨if n = 0 then .error (.failed (.connectionFailed "refused")) else .ok ⟨503, .cut []⟩,
      n + 1, []⟩

theorem outOfOrder_asked_twice :
    let clock := Collector.Setup.everySecond.clock
    let errand : Errand := .finish ⟨"T1", 0⟩ ⟨.passed, none⟩ true
    let s : Session := { id := "s-1", clusters := [], active := some "T1" }
    let client := Agent.sample.client Agent.outOfOrder clock none
    let after := (errand.perform client).outcome (s, 0, [])
    clock.Steady ∧ errand.Accepted s ∧ after.2.2.2.length = 2 ∧
      ∃ now w', clock.stopwatch.outcome 0 = (.ok now, w') ∧
        Conducted Agent.sample (errand.operation none s now) errand.name after.2.2.2 after.1 := by
  intro clock errand s client after
  have steady : clock.Steady := fun n => ⟨n, n, rfl⟩
  have requests := requests_of_errand Agent.sample Agent.outOfOrder steady none errand s 0
  exact ⟨steady, trivial, rfl, requests.2 trivial⟩

theorem Agent.answers_of_unreadable (a : Agent) (clock : Clock Nat) (s : Session)
    {response : Web.Response} (right : response.status < 400)
    (unreadable : response.body.Unreadable) :
    (((Errand.enter .withoutSelection).perform (a.client (peer response) clock none)).outcome
      (s, 0, [])).2.2.2.map Exchange.answer = [.ok response, .ok response] := by
  let client := a.client (peer response) clock none
  let request : Registration := ⟨none, true, none⟩
  obtain ⟨reason, unread⟩ := unreadable
  have attempt (n : Nat) (past : List Exchange) : ∃ message,
      (client.service.register request).outcome (n, past) =
        (.error (.failed (.connectivity a.registerEndpoint.text message)), n + 1,
          past ++ [⟨a.registerRequest request, .ok response⟩]) := by
    have sent : ((peer response).noted.send (a.registerRequest request)).outcome (n, past) =
        (.ok response, n + 1, past ++ [⟨a.registerRequest request, .ok response⟩]) := rfl
    refine ⟨"failed to read response body: " ++ reason, ?_⟩
    simp [client, Agent.client, service, register, answer, sent, Web.firstErrorStatus,
      Nat.not_le.mpr right, unread, Action.ofExcept]
  obtain ⟨_, first⟩ := attempt 0 []
  obtain ⟨_, second⟩ := attempt 1 ([] ++ [⟨a.registerRequest request, .ok response⟩])
  have asked := withRetry_of_lost "start test run" first rfl
  rw [second] at asked
  have opened := client.outcome_register request (0, [])
  rw [asked] at opened
  show (((fun _ => ()) <$> Action.onSnd (client.register request)).outcome
    (s, 0, [])).2.2.2.map Exchange.answer = _
  rw [outcome_map, outcome_onSnd, opened]
  rfl

/-- An answer that comes whole, and is one byte longer than what is read of it. -/
def Agent.longAnswer : Web.Response := ⟨200, .whole (List.replicate (Web.bodyLimit + 1) 32)⟩

/-- No connection fails or closes, and a run is registered twice all the same. And where no attempt
    delivers a body that can be read, the error can be the status of the second. -/
theorem Agent.longAnswer_asked_twice :
    let clock := Collector.Setup.everySecond.clock
    let s : Session := { id := "s-1", clusters := [], active := some "T1" }
    let long := ((Errand.enter .withoutSelection).perform
      (sample.client (peer longAnswer) clock none)).outcome (s, 0, [])
    let broken := ((Errand.finish ⟨"T1", 0⟩ ⟨.passed, none⟩ true).perform
      (sample.client outOfOrder clock none)).outcome (s, 0, [])
    long.2.2.2.map Exchange.answer = [.ok longAnswer, .ok longAnswer] ∧
      broken.2.2.2.map Exchange.answer =
        [.error (.failed (.connectionFailed "refused")), .ok ⟨503, .cut []⟩] ∧
      ∃ endpoint, broken.1 = .error (.failed (.agent endpoint 503 "")) := by
  have tooLong : longAnswer.body.Unreadable :=
    ⟨_, if_pos (by simpa only [longAnswer, Web.Body.bytes, List.length_replicate] using
      Nat.lt_succ_self Web.bodyLimit)⟩
  exact ⟨sample.answers_of_unreadable _ _ (by decide) tooLong, rfl, _, rfl⟩

end TestImpact
