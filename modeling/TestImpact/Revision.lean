import TestImpact.Json.Shape
import TestImpact.Refusal

namespace TestImpact

/-- A point on a branch. The timestamp is text, so that names such as `HEAD` pass unchanged. -/
structure Commit where
  branch : String
  timestamp : String
  colon_not_mem : ':' ∉ branch.toList
  deriving DecidableEq, Repr

namespace Commit

def defaultBranch : String := "master"

/-- A branch with a colon would not be told from its timestamp. -/
def make (branch timestamp : String) : Except Refusal Commit :=
  if h : ':' ∉ branch.toList then .ok ⟨branch, timestamp, h⟩ else .error (.colonInBranch branch)

theorem not_mem_takeWhile_ne (c : Char) (cs : List Char) : c ∉ cs.takeWhile (· ≠ c) := by
  intro h
  have passed := List.all_takeWhile (l := cs) (p := (· ≠ c))
  rw [List.all_eq_true] at passed
  simpa using passed c h

/-- Reads `branch:timestamp`. The first colon ends the branch; a text without one is a timestamp on
    the default branch. -/
def parse (text : String) : Commit :=
  if ':' ∈ text.toList then
    { branch := String.ofList (text.toList.takeWhile (· ≠ ':'))
      timestamp := String.ofList ((text.toList.dropWhile (· ≠ ':')).drop 1)
      colon_not_mem := by rw [String.toList_ofList]; exact not_mem_takeWhile_ne ':' _ }
  else { branch := defaultBranch, timestamp := text, colon_not_mem := by decide }

def ofName (text : String) : Except Refusal Commit :=
  if text = "" then .error .emptyCommit else .ok (parse text)

def text (c : Commit) : String := c.branch ++ ":" ++ c.timestamp

def toJson (c : Commit) : Json.Value := .text c.text

def reader : Json.Reader Commit :=
  Json.Reader.text.refine fun name => (ofName name).mapError fun r => .refused r.message

end Commit

/-- What a report belongs to: a point on a branch, or a revision by its own id. -/
inductive Revision
  | commit (c : Commit)
  | id (text : String)
  deriving DecidableEq, Repr

namespace Revision

def formField : Revision → String × String
  | commit c => ("t", c.text)
  | id text => ("revision", text)

def text : Revision → String
  | commit c => "commit " ++ c.text
  | id text => "revision " ++ text

def toJson : Revision → Json.Value
  | commit c => .object [("commit", c.toJson)]
  | id text => .object [("revision", .text text)]

def reader : Json.Reader Revision :=
  Json.Alternative.reader
    [("commit", .carrying fun t => (Commit.reader t).map commit),
     ("revision", .carrying fun t => (Json.Reader.text t).map id)]

end Revision

end TestImpact
