import TestImpact.Files.Path
import TestImpact.Refusal
import TestImpact.Text.Letters

namespace TestImpact.Artifact

inductive Kind
  /-- The tests that a run can choose from. -/
  | testList
  /-- The tests that ran, with their results. -/
  | testExecution
  /-- Coverage of scripts that were instrumented by their compiler. -/
  | closureCoverage
  /-- A binary dump of a coverage recorder. -/
  | nativeCoverage
  deriving DecidableEq, Repr

namespace Kind

/-- All kinds; one with a stem comes before the one without. -/
def all : List Kind := [testList, testExecution, closureCoverage, nativeCoverage]

def tag : Kind → String
  | testList => "test-list"
  | testExecution => "test-execution"
  | nativeCoverage => "native-coverage"
  | closureCoverage => "closure-coverage"

def readableName : Kind → String
  | testList => "Test list"
  | testExecution => "Test execution"
  | nativeCoverage => "Native coverage dump"
  | closureCoverage => "Closure coverage"

def stem : Kind → String
  | testList => "test-list"
  | testExecution => "test-execution"
  | nativeCoverage => ""
  | closureCoverage => "closure-coverage"

def extension : Kind → String
  | testList | testExecution | closureCoverage => "json"
  | nativeCoverage => "exec"

def isJson (k : Kind) : Bool := k.extension = "json"

def names (k : Kind) (name : Files.Name) : Bool :=
  match Text.Utf8.decode? name, (Files.Path.extensionOf name).bind Text.Utf8.decode? with
  | some text, some extension =>
    k.stem.toList.isPrefixOf text.toList && Text.sameLetters extension k.extension
  | _, _ => false

def covers (k : Kind) (path : Files.Path) : Bool :=
  match path.fileName with
  | some name => k.names name
  | none => false

def ofPath (path : Files.Path) : Option Kind := all.find? fun k => k.covers path

def ofName (name : String) : Except Refusal Kind :=
  let word := Text.smallWord name
  if word = "test-list" then .ok testList
  else if word = "test-execution" then .ok testExecution
  else if word = "native-coverage" ∨ word = "jacoco" then .ok nativeCoverage
  else if word = "closure-coverage" ∨ word = "closure" then .ok closureCoverage
  else
    .error (.unknownArtifactKind name
      ["test-list", "test-execution", "native-coverage", "closure-coverage"])

end Kind

end TestImpact.Artifact
