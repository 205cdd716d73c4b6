import Mathlib
import TestImpact.Proofs.Collection.Exchanges
import TestImpact.Proofs.Run.Records
import TestImpact.Proofs.Web.Requests

namespace TestImpact

open Web.Url

def Web.Request.message (r : Web.Request) :
    String × String × List (String × String) × Option (List UInt8) :=
  (r.method, r.url.target, r.headers, r.body)

namespace Registration

def readFlag (text : String) : Option Bool :=
  if text = "true" then some true else if text = "false" then some false else none

def candidatesReader : Json.Reader (Option (List Candidate)) := .optional (.list Candidate.reader)

def ofRequest? (target : String) (body : List UInt8) : Option Registration := do
  let pairs := Web.readPairs target
  let includeNonImpacted ← readFlag (← pairs.lookup "include-non-impacted")
  let baseline ←
    match pairs.lookup "baseline" with
    | some millis => millis.toInt?.map some
    | none => some none
  let available ← (Json.read candidatesReader (Text.Utf8.units body)).toOption
  return { available, includeNonImpacted, baseline }

theorem readFlag_boolText (b : Bool) : readFlag (Agent.boolText b) = some b := by
  cases b <;> decide

/-- The absence of a list is not taken for an empty one. -/
theorem reads_candidates (available : Option (List Candidate)) :
    Json.Reads candidatesReader
      (match available with
        | some tests => .list (tests.map Candidate.toJson)
        | none => .null) available := by
  cases available with
  | none => exact ⟨trivial, rfl⟩
  | some tests =>
    have reads : Json.Reads (.list Candidate.reader) (.list (tests.map Candidate.toJson)) tests :=
      .list fun c _ => c.reads
    exact ⟨reads.whole, Json.optional_tree nofun reads.tree⟩

end Registration

namespace Agent

variable {σ τ : Type} {a : Agent} {address : AgentAddress}

theorem plain_include (b : Bool) : Plain "include-non-impacted" (boolText b) := by
  cases b <;> exact ⟨by decide, by decide⟩

theorem plain_baseline (millis : Int) : Plain "baseline" (toString millis) where
  name := by decide
  value := by
    intro member
    rcases sign_or_digit member with sign | digit
    · exact absurd sign (by decide)
    · exact absurd digit (by decide)

theorem query_registerEndpoint (a : Agent) : a.registerEndpoint.query = a.base.query := by
  obtain ⟨path, same⟩ := a.base.extend_fields ["testrun", "start"]
  rw [registerEndpoint, same]

theorem base_of_connect (connected : connect address = .ok a) :
    Web.baseUrl address.url = .ok a.base := by
  obtain ⟨base, based, same⟩ := bind_eq_ok.mp connected
  cases same
  exact based

theorem escaped_registerEndpoint (connected : connect address = .ok a) :
    Escaped a.registerEndpoint.path :=
  escaped_extend (baseUrl_escaped (base_of_connect connected)) _

theorem url_registerRequest (a : Agent) (request : Registration) :
    let url :=
      a.registerEndpoint.withPair "include-non-impacted" (boolText request.includeNonImpacted)
    (a.registerRequest request).url = match request.baseline with
      | some millis => url.withPair "baseline" (toString millis)
      | none => url := rfl

theorem readPairs_register (connected : connect address = .ok a)
    (bare : a.base.query.getD "" = "") (request : Registration) :
    Web.readPairs (a.registerRequest request).url.target =
      ("include-non-impacted", boolText request.includeNonImpacted) ::
        (request.baseline.toList.map fun millis => ("baseline", toString millis)) := by
  have escaped := escaped_registerEndpoint connected
  have bare' : a.registerEndpoint.query.getD "" = "" := by rwa [query_registerEndpoint]
  have plain := plain_include request.includeNonImpacted
  have first := readPairs_first escaped bare' plain
  rw [url_registerRequest]
  cases request.baseline with
  | none => exact first
  | some millis =>
    have escaped' : Escaped (a.registerEndpoint.withPair "include-non-impacted"
        (boolText request.includeNonImpacted)).path := by rwa [withPair_path]
    have query := query_withPair bare' "include-non-impacted" (boolText request.includeNonImpacted)
    exact (readPairs_further escaped' query (by simp) (plain_baseline millis)).trans
      (congrArg (· ++ _) first)

theorem body_registerRequest (a : Agent) (request : Registration) :
    ∃ body, (a.registerRequest request).body = some body ∧
      Json.read Registration.candidatesReader (Text.Utf8.units body) = .ok request.available := by
  have back := (Registration.reads_candidates request.available).back
  exact ⟨_, rfl, (back _ List.mem_cons_self).2.1⟩

theorem ofRequest?_registerRequest (connected : connect address = .ok a)
    (bare : a.base.query.getD "" = "") (request : Registration) :
    (a.registerRequest request).body.bind
      (Registration.ofRequest? (a.registerRequest request).url.target) = some request := by
  obtain ⟨body, sent, available⟩ := a.body_registerRequest request
  have pairs := readPairs_register connected bare request
  obtain ⟨tests, flag, baseline⟩ := request
  have other : ("baseline" == "include-non-impacted") = false := by decide
  rw [sent, Option.bind_some, Registration.ofRequest?, pairs, available]
  cases baseline with
  | none => simp [Registration.readFlag_boolText, other, List.lookup, Except.toOption]
  | some millis =>
    simp [Registration.readFlag_boolText, other, List.lookup, Except.toOption]

theorem exchanges_register {σ : Type} (a : Agent) (http : Web.Http σ) (request : Registration)
    (w : σ) : ∃ answer, ((a.register http.noted request).outcome (w, [])).2.2 =
      [⟨a.registerRequest request, answer⟩] := by
  have performed := a.outcome_perform_noted http (.register request) w []
  have same := Action.outcome_map_state Collector.Answer.plan (a.register http.noted request)
    (w, [])
  rw [← same]
  exact ⟨_, congrArg (·.2.2) performed⟩

/-- One request is sent for a registration, and says all of it: by what it asks for and by its body
    the other side knows what was registered, hence no two registrations send the same request. -/
theorem registrations_read_back (connected : connect address = .ok a)
    (bare : a.base.query.getD "" = "") :
    (∀ {σ : Type} (http : Web.Http σ) (w : σ) (request : Registration), ∃ sent : Exchange,
      ((a.register http.noted request).outcome (w, [])).2.2 = [sent] ∧
      sent.request.method = "POST" ∧
      sent.request.body.bind (Registration.ofRequest? sent.request.url.target) = some request) ∧
    ∀ {σ τ : Type} (http : Web.Http σ) (http' : Web.Http τ) w w' request request' sent sent',
      ((a.register http.noted request).outcome (w, [])).2.2 = [sent] →
      ((a.register http'.noted request').outcome (w', [])).2.2 = [sent'] →
      sent.request.message = sent'.request.message → request = request' := by
  constructor
  · intro σ http w request
    obtain ⟨answer, noted⟩ := a.exchanges_register http request w
    exact ⟨_, noted, rfl, ofRequest?_registerRequest connected bare request⟩
  · intro σ τ http http' w w' request request' sent sent' noted noted' same
    obtain ⟨answer, one⟩ := a.exchanges_register http request w
    obtain ⟨answer', one'⟩ := a.exchanges_register http' request' w'
    cases noted.symm.trans one
    cases noted'.symm.trans one'
    simp only [Web.Request.message, Prod.mk.injEq] at same
    obtain ⟨-, target, -, body⟩ := same
    have read := ofRequest?_registerRequest connected bare request
    rw [target, body, ofRequest?_registerRequest connected bare request'] at read
    exact (Option.some.inj read).symm

theorem sample_registrations :
    let request : Registration := ⟨some [], true, some (-5)⟩
    connect ⟨"http://agent.test", 30⟩ = .ok sample ∧ sample.base.query.getD "" = "" ∧
      (∃ sent : Exchange, ((sample.register (peer ⟨200, .cut []⟩).noted request).outcome
        (0, [])).2.2 = [sent] ∧ sent.request.body.bind
          (Registration.ofRequest? "/testrun/start?include-non-impacted=true&baseline=-5") =
            some request) ∧
      (sample.registerRequest request).message ≠
        (sample.registerRequest { request with available := none }).message := by
  intro request
  have connected : connect ⟨"http://agent.test", 30⟩ = .ok sample := by decide +kernel
  have bare : sample.base.query.getD "" = "" := rfl
  obtain ⟨read, distinct⟩ := registrations_read_back connected bare
  obtain ⟨sent, noted, -, back⟩ := read (peer ⟨200, .cut []⟩) 0 request
  obtain ⟨answer, one⟩ := sample.exchanges_register (peer ⟨200, .cut []⟩) request 0
  obtain ⟨_, other⟩ :=
    sample.exchanges_register (peer ⟨200, .cut []⟩) { request with available := none } 0
  have target : (sample.registerRequest request).url.target =
      "/testrun/start?include-non-impacted=true&baseline=-5" := by decide +kernel
  cases noted.symm.trans one
  refine ⟨connected, bare, ⟨_, one, target ▸ back⟩, fun same => ?_⟩
  have lists : request.available = none :=
    congrArg Registration.available (distinct _ _ _ _ _ _ _ _ one other same)
  cases lists

end Agent

end TestImpact
