import TestImpact.Json.Shape
import TestImpact.Refusal
import TestImpact.Text.Letters

namespace TestImpact.Report

inductive Format
  | jacoco
  | testwise
  | junit
  | lcov
  deriving DecidableEq, Repr, Inhabited

namespace Format

def all : List Format := [jacoco, testwise, junit, lcov]

def tag : Format → String
  | jacoco => "JACOCO"
  | testwise => "TESTWISE_COVERAGE"
  | junit => "JUNIT"
  | lcov => "LCOV"

def readableName : Format → String
  | jacoco => "JaCoCo XML coverage"
  | testwise => "Testwise coverage"
  | junit => "JUnit test results"
  | lcov => "LCOV coverage"

def stem : Format → String
  | jacoco => "jacoco"
  | testwise => "testwise-coverage"
  | junit => "junit"
  | lcov => "lcov"

def extension : Format → String
  | jacoco | junit => "xml"
  | testwise => "json"
  | lcov => "info"

def mediaType : Format → String
  | jacoco | junit => "application/xml"
  | testwise => "application/json"
  | lcov => "text/plain"

def plainTag (f : Format) : String :=
  String.ofList (Text.replace '_' '-' (f.tag.toList.map Char.toLower))

def ofName (name : String) : Except Refusal Format :=
  let word := Text.capitalWord name
  if word = "JACOCO" ∨ word = "JACOCO_XML" then .ok jacoco
  else if word = "TESTWISE_COVERAGE" ∨ word = "TESTWISE" then .ok testwise
  else if word = "JUNIT" then .ok junit
  else if word = "LCOV" then .ok lcov
  else .error (.unknownReportFormat name (all.map plainTag))

def toJson (f : Format) : Json.Value := .text f.tag

def reader : Json.Reader Format :=
  Json.Reader.text.refine fun name => (ofName name).mapError fun r => .refused r.message

end Format

end TestImpact.Report
