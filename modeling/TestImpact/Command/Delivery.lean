import TestImpact.Command.Failure
import TestImpact.Delivery.Directory
import TestImpact.Delivery.Fallback
import TestImpact.Delivery.Upload

namespace TestImpact

def UploadTarget.storeWithFallback {σ : Type} (t : UploadTarget) (place : FallbackPlace)
    (http : Web.Http σ) (freshToken : Action Empty σ String) (disk : Files.Disk σ)
    (clock : Clock σ) : Except Refusal (Store σ) := do
  let upload ← t.store http freshToken
  return upload.orElse (directoryStore disk clock place.directory t.format)

namespace Command

structure DeliveryOptions where
  serverUrl : String
  project : String
  user : Option String := none
  accessKey : Option String := none
  partition : String
  commit : Option Commit := none
  revision : Option String := none
  format : Report.Format := .jacoco
  message : Option String := none
  fallbackDirectory : Files.Path
  deriving DecidableEq, Repr

namespace DeliveryOptions

def target (o : DeliveryOptions) : Except Failure UploadTarget := do
  let revision ← match o.commit, o.revision with
    | some c, _ => .ok (Revision.commit c)
    | none, some id => .ok (Revision.id id)
    | none, none => .error .noRevision
  return {
    url := o.serverUrl, project := o.project, user := o.user, accessKey := o.accessKey,
    partition := o.partition, revision, format := o.format, message := o.message }

def fallback (o : DeliveryOptions) : FallbackPlace := ⟨o.fallbackDirectory⟩

end DeliveryOptions

def upload {σ : Type} (disk : Files.Disk σ) (store : Store σ) (file : Files.Path) :
    Action Failure σ String := do
  let report ← (disk.readText file).mapError fun cause => .unreadReport file cause
  let delivered ← (store.store report).mapError fun e => .undelivered file e
  return s!"Report {file.display} {delivered.text}\n"

def describe {σ : Type} (store : Store σ) : String :=
  s!"Reports are delivered to {store.description}\n"

end Command

end TestImpact
