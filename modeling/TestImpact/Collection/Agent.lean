import TestImpact.Collection.Service
import TestImpact.Web.BaseUrl
import TestImpact.Web.Http

namespace TestImpact

structure AgentAddress where
  url : String
  timeoutSeconds : UInt64 := 30
  deriving DecidableEq, Repr

namespace AgentAddress

open Json

def urlMember : Member String := .required "url" .text
def timeoutMember : Member UInt64 := .defaulting "timeout_secs" .natural 30

def shape : Shape AgentAddress where
  name := "AgentConfig"
  slots := [urlMember.slot, timeoutMember.slot]
  build bound := do
    let url ← urlMember.get bound
    let timeoutSeconds ← timeoutMember.get bound
    return { url, timeoutSeconds }

def reader : Reader AgentAddress := shape.reader

def baseUrl (a : AgentAddress) : Except Refusal Web.Url := Web.baseUrl a.url

end AgentAddress

structure Agent where
  base : Web.Url
  timeoutSeconds : UInt64 := 30
  deriving DecidableEq, Repr

namespace Agent

variable {σ : Type}

def connect (address : AgentAddress) : Except Refusal Agent := do
  let base ← address.baseUrl
  return { base, timeoutSeconds := address.timeoutSeconds }

def boolText (b : Bool) : String := if b then "true" else "false"

def failed (endpoint : Web.Url) : Web.CallFault → Error
  | .unreached message => .connectivity endpoint.text message
  | .status code body => .agent endpoint.text code body

def post (a : Agent) (url : Web.Url) (body : Option Json.Value) : Web.Request :=
  { url := url
    headers :=
      Web.commonHeaders ++ if body.isSome then [("Content-Type", "application/json")] else []
    body := body.map fun v => Text.Utf8.encode v.compact
    timeoutSeconds := a.timeoutSeconds }

/-- Reads the answer of an endpoint. One with a body that cannot be read counts as not heard. -/
def answer {α : Type} (r : Json.Reader α) (endpoint : Web.Url) (response : Web.Response) :
    Except Error α :=
  match response.body.text with
  | .error message =>
    .error (.connectivity endpoint.text ("failed to read response body: " ++ message))
  | .ok body =>
    (Json.read r (.ofString body)).mapError fun fault =>
      .disagreement (.unexpectedAnswer endpoint.text fault)

def registerEndpoint (a : Agent) : Web.Url := a.base.extend ["testrun", "start"]

def registerRequest (a : Agent) (request : Registration) : Web.Request :=
  let url :=
    a.registerEndpoint.withPair "include-non-impacted" (boolText request.includeNonImpacted)
  let url := match request.baseline with
    | some millis => url.withPair "baseline" (toString millis)
    | none => url
  a.post url <| some <|
    match request.available with
    | some tests => .list (tests.map Candidate.toJson)
    | none => .null

def startEndpoint (a : Agent) (session path : String) : Web.Url :=
  a.base.extend ["testrun", session, "test", "start", path]

def endEndpoint (a : Agent) (session path : String) : Web.Url :=
  a.base.extend ["testrun", session, "test", "end", path]

def endRequest (a : Agent) (session : String) (execution : Execution) (retrieve : Bool) :
    Web.Request :=
  a.post ((a.endEndpoint session execution.path).withPair "coverage" (boolText retrieve))
    (some execution.toJson)

def endRunEndpoint (a : Agent) (session : String) : Web.Url :=
  a.base.extend ["testrun", session, "end"]

def register (a : Agent) (http : Web.Http σ) (request : Registration) : Action Error σ Plan := do
  let endpoint := a.registerEndpoint
  let response ← (http.call (a.registerRequest request)).mapError (failed endpoint)
  .ofExcept (answer Plan.reader endpoint response)

def startTest (a : Agent) (http : Web.Http σ) (session path : String) : Action Error σ Unit := do
  let endpoint := a.startEndpoint session path
  let _ ← (http.call (a.post endpoint none)).mapError (failed endpoint)

def endTest (a : Agent) (http : Web.Http σ) (session : String) (execution : Execution)
    (retrieve : Bool) : Action Error σ (Option Attribution) := do
  let endpoint := a.endEndpoint session execution.path
  let response ← (http.call (a.endRequest session execution retrieve)).mapError (failed endpoint)
  if retrieve then
    let info ← Action.ofExcept (answer Attribution.reader endpoint response)
    return some info
  else return none

def endRun (a : Agent) (http : Web.Http σ) (session : String) (upload : Bool) :
    Action Error σ Unit := do
  let endpoint := a.endRunEndpoint session
  let request := a.post (endpoint.withPair "upload" (boolText upload)) none
  let _ ← (http.call request).mapError (failed endpoint)

def service (a : Agent) (http : Web.Http σ) : Service σ where
  description := a.base.text
  register := a.register http
  startTest := a.startTest http
  endTest := a.endTest http
  endRun := a.endRun http

end Agent

end TestImpact
