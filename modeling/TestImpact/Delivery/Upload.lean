import TestImpact.Delivery.Store
import TestImpact.Json.Shape
import TestImpact.Report.Format
import TestImpact.Revision
import TestImpact.Web.Base64
import TestImpact.Web.BaseUrl
import TestImpact.Web.Http
import TestImpact.Web.Multipart

namespace TestImpact

structure UploadTarget where
  url : String
  project : String
  user : Option String := none
  accessKey : Option String := none
  partition : String
  revision : Revision
  format : Report.Format
  message : Option String := none
  timeoutSeconds : UInt64 := 120
  deriving DecidableEq, Repr

namespace UploadTarget

open Json

def urlMember : Member String := .required "url" .text
def projectMember : Member String := .required "project" .text
def userMember : Member (Option String) := .optional "user" .text
def accessKeyMember : Member (Option String) := .optional "access_key" .text
def partitionMember : Member String := .required "partition" .text
def revisionMember : Member Revision := .required "revision" Revision.reader
def formatMember : Member Report.Format := .required "format" Report.Format.reader
def messageMember : Member (Option String) := .optional "message" .text
def timeoutMember : Member UInt64 := .defaulting "timeout_secs" .natural 120

def shape : Shape UploadTarget where
  name := "UploadConfig"
  slots :=
    [urlMember.slot, projectMember.slot, userMember.slot, accessKeyMember.slot,
     partitionMember.slot, revisionMember.slot, formatMember.slot, messageMember.slot,
     timeoutMember.slot]
  build bound := do
    let url ← urlMember.get bound
    let project ← projectMember.get bound
    let user ← userMember.get bound
    let accessKey ← accessKeyMember.get bound
    let partition ← partitionMember.get bound
    let revision ← revisionMember.get bound
    let format ← formatMember.get bound
    let message ← messageMember.get bound
    let timeoutSeconds ← timeoutMember.get bound
    return { url, project, user, accessKey, partition, revision, format, message, timeoutSeconds }

def reader : Reader UploadTarget := shape.reader

def validate (t : UploadTarget) : Except Refusal Unit := do
  let _ ← Web.baseUrl t.url
  if Text.isBlankText t.project then .error .blankProject
  else if Text.isBlankText t.partition then .error .blankPartition
  else if t.user.isSome ≠ t.accessKey.isSome then .error .unpairedCredentials
  else return ()

def uploadUrl (t : UploadTarget) : Except Refusal Web.Url := do
  let base ← Web.baseUrl t.url
  return base.extend ["api", "projects", t.project, "external-analysis", "reports"]

def describe (t : UploadTarget) (url : Web.Url) : String :=
  s!"{url.text} (project {t.project}, partition {t.partition}, {t.revision.text})"

def form (t : UploadTarget) (report : String) : List Web.Multipart.Part :=
  let fileName := t.format.stem ++ "." ++ t.format.extension
  [{ name := "report", file := some (fileName, t.format.mediaType),
     content := Text.Utf8.encode report },
   .text "project" t.project,
   .text t.revision.formField.1 t.revision.formField.2,
   .text "partition" t.partition,
   .text "format" t.format.tag] ++
  t.message.toList.map (Web.Multipart.Part.text "message")

def authorization (t : UploadTarget) : List (String × String) :=
  match t.user, t.accessKey with
  | some user, some key =>
    let token := Web.Base64.encode (Text.Utf8.encode (user ++ ":" ++ key))
    [("Authorization", "Basic " ++ String.ofList token)]
  | _, _ => []

def request (t : UploadTarget) (url : Web.Url) (boundary report : String) : Web.Request :=
  { url := url
    headers :=
      ("Content-Type", Web.Multipart.mediaType boundary) :: Web.commonHeaders ++ t.authorization
    body := some (Web.Multipart.encode boundary (t.form report))
    timeoutSeconds := t.timeoutSeconds }

def boundaryOf (token : String) : String := "tia-relay-" ++ token

def isSuccess (status : Nat) : Bool := 200 ≤ status && status < 300

/-- Uploads each report in one request. `freshToken` gives what keeps the boundary of a form apart
    from what is in it. -/
def send {σ : Type} (t : UploadTarget) (url : Web.Url) (http : Web.Http σ)
    (freshToken : Action Empty σ String) (report : String) : Action DeliveryError σ Delivered := do
  let target := t.describe url
  let token ← freshToken.lift
  Action.log .debug <|
    s!"Uploading {t.format.readableName} report ({report.utf8ByteSize} bytes) to {target}"
  let response ← (http.call (t.request url (boundaryOf token) report)).mapError fun fault =>
    match fault with
    | .unreached message => DeliveryError.unreached target message
    | .status code body => DeliveryError.rejected target code body
  if isSuccess response.status then
    Action.log .info s!"Uploaded report to {target}"
    return .uploaded target
  else .fail (.rejected target response.status response.body.textOrNothing)

def store {σ : Type} (t : UploadTarget) (http : Web.Http σ) (freshToken : Action Empty σ String) :
    Except Refusal (Store σ) := do
  t.validate
  let url ← t.uploadUrl
  return { description := t.describe url, store := t.send url http freshToken }

end UploadTarget

structure FallbackPlace where
  directory : Files.Path
  deriving DecidableEq, Repr

namespace FallbackPlace

open Json

def directoryMember : Member String := .required "directory" (.textFor "path string")

def shape : Shape FallbackPlace where
  name := "FallbackConfig"
  slots := [directoryMember.slot]
  build bound := do
    let directory ← directoryMember.get bound
    return { directory := .ofString directory }

def reader : Reader FallbackPlace := shape.reader

end FallbackPlace

end TestImpact
