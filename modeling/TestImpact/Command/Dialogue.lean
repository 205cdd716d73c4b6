import TestImpact.Command.Run
import TestImpact.Web.Client

namespace TestImpact.Command

inductive Question
  | ensureDirectory (p : Files.Path)
  | write (p : Files.Path) (content : List UInt8)
  | read (p : Files.Path)
  | send (request : Web.Request)
  | epochMillis
  | stopwatch
  | token
  deriving DecidableEq, Repr

inductive Answer
  | done
  | content (bytes : List UInt8)
  | response (r : Web.Response)
  | number (n : Int)
  | text (s : String)
  | fileFault (cause : Files.Cause)
  | transportFault (fault : Web.TransportFault)
  deriving DecidableEq, Repr

/-- A command is run from its start with the answers that are known; where it needs one more, it
    stops with the question pending. The answers to one command are always asked for in one order,
    so that a run with one answer more comes one question further. -/
structure Dialogue where
  files : Files.FileTree := {}
  answers : List Answer := []
  pending : Option Question := none

namespace Dialogue

variable {ε α : Type}

/-- Takes the next answer, or stops with the question. An answer of the wrong kind stops too. -/
def ask (q : Question) (read : Answer → Option (Except ε α)) : Action ε Dialogue α := fun d =>
  match d.answers with
  | [] => Action.unwind { d with pending := some q }
  | a :: more =>
    match read a with
    | some r => Action.ofExcept r { d with answers := more }
    | none => Action.unwind d

def isDone : Answer → Option (Except Files.Cause Unit)
  | .done => some (.ok ())
  | .fileFault cause => some (.error cause)
  | _ => none

def asText : Answer → Option (Except Files.Cause String)
  | .content bytes =>
    match Text.Utf8.decode? bytes with
    | some s => some (.ok s)
    | none => some (.error .notUtf8)
  | .fileFault cause => some (.error cause)
  | _ => none

def asResponse : Answer → Option (Except Web.TransportFault Web.Response)
  | .response r => some (.ok r)
  | .transportFault fault => some (.error fault)
  | _ => none

def asNumber : Answer → Option (Except Empty Int)
  | .number n => some (.ok n)
  | _ => none

def asToken : Answer → Option (Except Empty String)
  | .text s => some (.ok s)
  | _ => none

def setup (environment : String → Option String) (uptime : Nat) : Setup Dialogue where
  environment := environment
  files := Dialogue.files
  disk :=
    { ensureDirectory := fun p => ask (.ensureDirectory p) isDone
      write := fun p content => ask (.write p content) isDone
      readText := fun p => ask (.read p) asText }
  clock :=
    { epochMillis := ask .epochMillis asNumber
      stopwatch := ask .stopwatch fun a => (asNumber a).map fun r => r.map Int.toNat }
  http := Web.Http.guarded ⟨fun request => ask (.send request) asResponse⟩ uptime
  freshToken := ask .token asToken

end Dialogue

def variableNames : List String := deliveryRules.filterMap OptionRule.environmentName

def Request.searched : Request → List Files.Path
  | .artifacts _ paths _ => paths
  | _ => []

def Request.reads : Request → Files.Path → Bool
  | .artifacts kind _ check, p => check && kind.covers p
  | _, _ => false

end TestImpact.Command
