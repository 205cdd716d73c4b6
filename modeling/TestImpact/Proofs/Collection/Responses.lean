import TestImpact.Collection.Agent
import TestImpact.Proofs.Collection.Inquiries

namespace TestImpact.Agent

open Action
open Collector (Operation Answer)

variable {σ : Type}

def perform (a : Agent) (http : Web.Http σ) : Operation → Action Error σ Answer
  | .register request => .plan <$> a.register http request
  | .startTest id path => (fun _ => .done) <$> a.startTest http id path
  | .endTest id execution retrieve => .attribution <$> a.endTest http id execution retrieve
  | .endRun id upload => (fun _ => .done) <$> a.endRun http id upload

def endpoint (a : Agent) : Operation → Web.Url
  | .register _ => a.registerEndpoint
  | .startTest id path => a.startEndpoint id path
  | .endTest id execution _ => a.endEndpoint id execution.path
  | .endRun id _ => a.endRunEndpoint id

def request (a : Agent) : Operation → Web.Request
  | .register request => a.registerRequest request
  | .startTest id path => a.post (a.startEndpoint id path) none
  | .endTest id execution retrieve => a.endRequest id execution retrieve
  | .endRun id upload => a.post ((a.endRunEndpoint id).withPair "upload" (boolText upload)) none

/-- What an operation takes from a response that is no error to the client of the transport. Only
    some of them read it. -/
def understood (a : Agent) (response : Web.Response) : Operation → Except Error Answer
  | .register _ => (answer Plan.reader a.registerEndpoint response).map .plan
  | .endTest id execution true =>
    (answer Attribution.reader (a.endEndpoint id execution.path) response).map fun info =>
      .attribution (some info)
  | .endTest _ _ false => .ok (.attribution none)
  | .startTest .. | .endRun .. => .ok .done

def concluded (a : Agent) (op : Operation) (response : Web.Response) : Collector.Result :=
  if Web.firstErrorStatus ≤ response.status then
    .error (.failed (.agent (a.endpoint op).text response.status response.body.textOrNothing))
  else (a.understood response op).mapError .failed

@[simp] theorem outcome_call (http : Web.Http σ) (request : Web.Request) (w : σ) :
    (http.call request).outcome w =
      match (http.send request).outcome w with
      | (.ok response, w') =>
        if Web.firstErrorStatus ≤ response.status then
          (.error (.failed (.status response.status response.body.textOrNothing)), w')
        else (.ok response, w')
      | (.error (.failed fault), w') => (.error (.failed (.unreached (fault.text request.url))), w')
      | (.error .unwound, w') => (.error .unwound, w') := by
  rcases sent : (http.send request).outcome w with ⟨(fault | _) | response, w'⟩
  · simp [Web.Http.call, sent]
  · simp [Web.Http.call, sent]
  · by_cases wrong : Web.firstErrorStatus ≤ response.status <;> simp [Web.Http.call, sent, wrong]

theorem perform_eq (a : Agent) (http : Web.Http σ) (op : Operation) :
    a.perform http op =
      (http.call (a.request op)).mapError (failed (a.endpoint op)) >>= fun response =>
        Action.ofExcept (a.understood response op) := by
  have read {α : Type} (f : α → Answer) (x : Except Error α) :
      f <$> (Action.ofExcept x : Action Error σ α) = Action.ofExcept (x.map f) := by
    cases x <;> rfl
  cases op with
  | register request => simp only [perform, register, map_bind, read]; rfl
  | startTest id path => simp only [perform, startTest, map_bind, map_pure]; rfl
  | endTest id execution retrieve =>
    cases retrieve with
    | false => simp only [perform, endTest, map_bind]; rfl
    | true =>
      simp only [perform, endTest, map_bind, if_true, bind_pure_comp, Functor.map_map, read]
      rfl
  | endRun id upload => simp only [perform, endRun, map_bind, map_pure]; rfl

theorem outcome_perform (a : Agent) (http : Web.Http σ) (op : Operation) (w : σ) :
    (a.perform http op).outcome w =
      match (http.send (a.request op)).outcome w with
      | (.ok response, w') => (a.concluded op response, w')
      | (.error (.failed fault), w') =>
        (.error (.failed (.connectivity (a.endpoint op).text (fault.text (a.request op).url))), w')
      | (.error .unwound, w') => (.error .unwound, w') := by
  rw [perform_eq]
  rcases sent : (http.send (a.request op)).outcome w with ⟨(fault | _) | response, w'⟩
  · simp [sent, failed]
  · simp [sent]
  · by_cases wrong : Web.firstErrorStatus ≤ response.status
    · simp [concluded, sent, wrong, failed]
    · cases read : a.understood response op <;>
        simp [concluded, sent, wrong, read, Action.ofExcept]

theorem understood_ne_agent (a : Agent) (response : Web.Response) (op : Operation)
    (endpoint body : String) (status : Nat) :
    a.understood response op ≠ .error (.agent endpoint status body) := by
  have answer_ne {α : Type} (r : Json.Reader α) (f : α → Answer) (url : Web.Url) :
      (answer r url response).map f ≠ .error (.agent endpoint status body) := by
    unfold answer
    cases response.body.text with
    | error message => simp [Except.map]
    | ok text => cases read : Json.read r (.ofString text) <;> simp [Except.map, read]
  cases op with
  | register request => exact answer_ne Plan.reader .plan _
  | startTest id path => simp [understood]
  | endTest id execution retrieve =>
    cases retrieve with
    | false => simp [understood]
    | true => exact answer_ne Attribution.reader (fun info => .attribution (some info)) _
  | endRun id upload => simp [understood]

def Success (status : Nat) : Prop := 200 ≤ status ∧ status ≤ 299

instance (status : Nat) : Decidable (Success status) := inferInstanceAs (Decidable (_ ∧ _))

/-- An operation succeeds only if the status of its response is that of a success, and any other
    status is in its error. -/
structure HeedsStatus (response : Web.Response) (result : Collector.Result) : Prop where
  success : result.isOk = true → Success response.status
  failure : ¬ Success response.status →
    ∃ endpoint body, result = .error (.failed (.agent endpoint response.status body))

theorem heedsStatus_concluded_iff (a : Agent) (op : Operation) (response : Web.Response) :
    HeedsStatus response (a.concluded op response) ↔
      Success response.status ∨ Web.firstErrorStatus ≤ response.status := by
  unfold concluded
  by_cases wrong : Web.firstErrorStatus ≤ response.status
  · rw [if_pos wrong]
    exact iff_of_true ⟨nofun, fun _ => ⟨_, _, rfl⟩⟩ (.inr wrong)
  · rw [if_neg wrong]
    -- The response is read now, and nothing that is read fails with a status.
    constructor
    · intro heeds
      refine .inl (Decidable.byContradiction fun other => ?_)
      obtain ⟨endpoint, body, same⟩ := heeds.failure other
      cases read : a.understood response op with
      | ok answer => simp [read] at same
      | error e =>
        simp only [read, mapError_error, Except.error.injEq, Halt.failed.injEq] at same
        exact a.understood_ne_agent response op endpoint body response.status (same ▸ read)
    · rintro (success | wrong')
      · exact ⟨fun _ => success, fun other => absurd success other⟩
      · exact absurd wrong' wrong

/-- For every operation and whatever it is answered: a status counts as it should if it is that of a
    success or from 400 on. Redirections, and what is below 200, pass for successes. -/
theorem status_heeded_iff (a : Agent) (http : Web.Http σ) (op : Operation) {w w' : σ}
    {response : Web.Response}
    (answered : (http.send (a.request op)).outcome w = (.ok response, w')) :
    HeedsStatus response ((a.perform http op).outcome w).1 ↔
      Success response.status ∨ 400 ≤ response.status := by
  rw [outcome_perform, answered]
  exact a.heedsStatus_concluded_iff op response

def peer (response : Web.Response) : Web.Http Nat := ⟨fun _ n => ⟨.ok response, n + 1, []⟩⟩

def sample : Agent := { base := { scheme := "http", host := some "agent.test", path := [""] } }

theorem refusal_heeded :
    let gone : Web.Response := ⟨404, .cut []⟩
    let op : Operation := .endRun "s-1" true
    ((peer gone).send (sample.request op)).outcome 0 = (.ok gone, 1) ∧
      (HeedsStatus gone ((sample.perform (peer gone) op).outcome 0).1 ↔
        Success 404 ∨ 400 ≤ 404) :=
  ⟨rfl, status_heeded_iff sample (peer ⟨404, .cut []⟩) (.endRun "s-1" true) rfl⟩

/-- A test counts as started although the request for it was redirected. -/
theorem redirection_passes_for_success :
    let moved : Web.Response := ⟨302, .whole (Text.Utf8.encode "moved")⟩
    let result := ((sample.perform (peer moved) (.startTest "s-1" "T1")).outcome 0).1
    result = .ok .done ∧ ¬ HeedsStatus moved result := by
  intro moved result
  have started : result = .ok .done := rfl
  refine ⟨started, fun heeds => ?_⟩
  have success : Success 302 := heeds.success (by rw [started]; rfl)
  exact absurd success (by decide)

end TestImpact.Agent
