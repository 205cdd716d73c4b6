import TestImpact.Action
import TestImpact.Text.Utf8
import TestImpact.Web.Url.Basic

namespace TestImpact.Web

structure Request where
  method : String := "POST"
  url : Url
  headers : List (String × String)
  body : Option (List UInt8) := none
  timeoutSeconds : UInt64 := 30
  deriving DecidableEq, Repr

/-- The body of a response as it comes, with the reason where it breaks off. -/
inductive Body
  | whole (bytes : List UInt8)
  | broken (bytes : List UInt8) (reason : String)
  deriving DecidableEq, Repr

/-- The connection closes where more was announced. -/
def Body.cut (bytes : List UInt8) : Body :=
  .broken bytes "response body closed before all bytes were read"

def Body.bytes : Body → List UInt8
  | whole bytes => bytes
  | broken bytes _ => bytes

/-- A response as it is handed over. One that was redirected is the last one: the redirects that
    are followed do not show. -/
structure Response where
  status : Nat
  body : Body
  deriving DecidableEq, Repr

inductive TransportFault
  | noHost
  | deadlineOutOfRange
  | unknownScheme
  | connectionFailed (detail : String)
  | networkError (detail : String)
  deriving DecidableEq, Repr

def TransportFault.text (url : Url) : TransportFault → String
  | noHost => "Bad URL: failed to parse URL: EmptyHost: empty host"
  | deadlineOutOfRange => "Network Error: Request deadline overflowed"
  | unknownScheme => s!"{url.text}: Unknown Scheme: unknown scheme '{url.scheme}'"
  | connectionFailed detail => s!"{url.text}: Connection Failed: {detail}"
  | networkError detail => s!"{url.text}: Network Error: {detail}"

/-- A way to send requests, one attempt each. An attempt gives one response or one fault, also where
    redirects make it several messages on the wire. -/
structure Http (σ : Type) where
  send : Request → Action TransportFault σ Response

def bodyLimit : Nat := 10 * 1024 * 1024

/-- The text of a body, with the replacement character for what is not UTF-8. Nobody reads on
    behind the limit, so that what comes there does not matter. -/
def Body.text (b : Body) : Except String String :=
  if bodyLimit < b.bytes.length then .error "response too big for into_string"
  else
    match b with
    | whole bytes => .ok (Text.Utf8.lossy bytes)
    | broken _ reason => .error reason

def Body.textOrNothing (b : Body) : String :=
  match b.text with
  | .ok s => s
  | .error _ => ""

inductive CallFault
  | unreached (message : String)
  | status (code : Nat) (body : String)
  deriving DecidableEq, Repr

def firstErrorStatus : Nat := 400

def Http.call {σ : Type} (http : Http σ) (request : Request) : Action CallFault σ Response := do
  let response ← (http.send request).mapError fun fault => .unreached (fault.text request.url)
  if firstErrorStatus ≤ response.status then
    .fail (.status response.status response.body.textOrNothing)
  else return response

def userAgent : String := "tia-relay/0.1.0"

def commonHeaders : List (String × String) :=
  [("Accept", "application/json"), ("User-Agent", userAgent)]

end TestImpact.Web
