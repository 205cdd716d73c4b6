import TestImpact.Command.Arguments
import TestImpact.Command.Artifacts

namespace TestImpact.Command

structure Setup (σ : Type) where
  environment : String → Option String
  files : σ → Files.FileTree
  disk : Files.Disk σ
  clock : Clock σ
  http : Web.Http σ
  freshToken : Action Empty σ String

structure Outcome where
  exit : Nat
  output : String := ""
  report : List String := []
  deriving DecidableEq, Repr

def versionText : String := "tia-relay 0.1.0\n"

def helpText : String :=
  "tia-relay: locate coverage artifacts and deliver reports reliably\n\n" ++
  "Usage: tia-relay <artifacts|upload|describe> [OPTIONS]\n"

def usageStatus : Nat := 2

def failureStatus : Nat := 1

variable {σ : Type}

def storeFor (setup : Setup σ) (o : DeliveryOptions) : Except Failure (Store σ) := do
  let target ← o.target
  (target.storeWithFallback o.fallback setup.http setup.freshToken setup.disk setup.clock).mapError
    .badTarget

def perform (setup : Setup σ) : Request → Action Failure σ String
  | .artifacts kind paths check => do
    let t ← Action.look setup.files
    .ofExcept (artifacts t kind paths check)
  | .upload file options => do
    let store ← Action.ofExcept (storeFor setup options)
    upload setup.disk store file
  | .describe options => do
    let store ← Action.ofExcept (storeFor setup options)
    return describe store
  | .version => return versionText
  | .help => return helpText

def run (setup : Setup σ) (args : List String) : Action Empty σ Outcome := do
  match Request.read setup.environment args with
  | .error .misused => return { exit := usageStatus }
  | .ok request =>
    match ← (perform setup request).attempt with
    | .ok output => return { exit := 0, output }
    | .error failure => return { exit := failureStatus, report := failure.report }

end TestImpact.Command
