import TestImpact.Coverage.Files
import TestImpact.Json.Shape

namespace TestImpact

open Json

inductive Status
  | passed
  | failure
  | error
  | skipped
  deriving DecidableEq, Repr

namespace Status

def name : Status → String
  | passed => "PASSED"
  | failure => "FAILURE"
  | error => "ERROR"
  | skipped => "SKIPPED"

def all : List Status := [passed, failure, error, skipped]

def reader : Reader Status := Alternative.reader (all.map fun s => (s.name, .bare s))

def toJson (s : Status) : Value := .text s.name

end Status

structure Verdict where
  status : Status
  message : Option String := none
  deriving DecidableEq, Repr

namespace Verdict

def statusMember : Member Status := .required "status" Status.reader
def messageMember : Member (Option String) := .optional "message" .text

def shape : Shape Verdict where
  name := "TestResult"
  slots := [statusMember.slot, messageMember.slot]
  build bound := do
    let status ← statusMember.get bound
    let message ← messageMember.get bound
    return { status, message }

def reader : Reader Verdict := shape.reader

def toJson (v : Verdict) : Value :=
  .object ([("status", v.status.toJson)] ++ Value.optional "message" .text v.message)

end Verdict

structure Execution where
  path : String
  /-- In milliseconds. -/
  duration : UInt64
  status : Status
  message : Option String := none
  deriving DecidableEq, Repr

namespace Execution

def pathMember : Member String := .required "uniformPath" .text
def durationMember : Member UInt64 := .required "durationMs" .natural
def statusMember : Member Status := .required "result" Status.reader
def messageMember : Member (Option String) := .optional "message" .text

def shape : Shape Execution where
  name := "TestExecution"
  slots := [pathMember.slot, durationMember.slot, statusMember.slot, messageMember.slot]
  build bound := do
    let path ← pathMember.get bound
    let duration ← durationMember.get bound
    let status ← statusMember.get bound
    let message ← messageMember.get bound
    return { path, duration, status, message }

def reader : Reader Execution := shape.reader

def toJson (e : Execution) : Value :=
  .object <|
    [("uniformPath", .text e.path), ("durationMs", .natural e.duration),
     ("result", e.status.toJson)] ++
    Value.optional "message" .text e.message

end Execution

structure Attribution where
  path : String
  status : Option Status := none
  message : Option String := none
  /-- One line `path:ranges` for each file. -/
  coverage : String := ""
  deriving DecidableEq, Repr

namespace Attribution

def pathMember : Member String := .required "uniformPath" .text
def statusMember : Member (Option Status) := .optional "result" Status.reader
def messageMember : Member (Option String) := .optional "message" .text
def coverageMember : Member String := .defaulting "coverage" .text ""

def shape : Shape Attribution where
  name := "TestInfo"
  slots := [pathMember.slot, statusMember.slot, messageMember.slot, coverageMember.slot]
  build bound := do
    let path ← pathMember.get bound
    let status ← statusMember.get bound
    let message ← messageMember.get bound
    let coverage ← coverageMember.get bound
    return { path, status, message, coverage }

def reader : Reader Attribution := shape.reader

def toJson (a : Attribution) : Value :=
  .object <|
    [("uniformPath", .text a.path)] ++
    Value.optional "result" Status.toJson a.status ++
    Value.optional "message" .text a.message ++
    [("coverage", .text a.coverage)]

def files (a : Attribution) : List (String × String) := Coverage.filesOf a.coverage

end Attribution

end TestImpact
