import TestImpact.Artifact.Kind
import TestImpact.Error

namespace TestImpact.Command

inductive Failure
  | failed (e : Error)
  | uncheckable (kind : Artifact.Kind)
  | noRevision
  | badTarget (r : Refusal)
  | unreadReport (file : Files.Path) (cause : Files.Cause)
  | undelivered (file : Files.Path) (e : DeliveryError)
  deriving DecidableEq, Repr

namespace Failure

def chain : Failure → List String
  | failed e => e.chain
  | uncheckable kind =>
    [s!"--check is not supported for {kind.tag} artifacts (binary .{kind.extension} files)"]
  | noRevision => ["either --commit or --revision is required"]
  | badTarget r => ["Invalid upload configuration", r.message]
  | unreadReport file cause => [s!"Failed to read report {file.display}", cause.message]
  | undelivered file e => s!"Failed to store report {file.display}" :: e.chain

def hang (mark : String) (message : String) : List String :=
  let blanks := String.ofList (List.replicate mark.length ' ')
  match (message.toList.splitOn '\n').map String.ofList with
  | [] => []
  | first :: others => (mark ++ first) :: others.map (blanks ++ ·)

def numberMark (n : Nat) : String :=
  let digits := toString n
  String.ofList (List.replicate (5 - digits.length) ' ') ++ digits ++ ": "

def causeLines : List String → List String
  | [] => []
  | [only] => "" :: "Caused by:" :: hang "    " only
  | causes =>
    "" :: "Caused by:" :: (causes.mapIdx fun n cause => hang (numberMark n) cause).flatten

def report (f : Failure) : List String :=
  match f.chain with
  | [] => []
  | message :: causes =>
    (("Error: " ++ message).toList.splitOn '\n').map String.ofList ++ causeLines causes

end Failure

end TestImpact.Command
