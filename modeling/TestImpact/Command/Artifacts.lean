import TestImpact.Artifact.Search
import TestImpact.Command.Failure

namespace TestImpact.Command

open Artifact (Kind)

def artifactLine (t : Files.FileTree) (kind : Kind) (check : Bool) (file : Files.Path) :
    Except Error String :=
  if check then do
    let records ← Artifact.readAll t Artifact.anyRecord kind [file]
    return s!"{file.display}  ({records.length} records)\n"
  else return file.display ++ "\n"

def artifacts (t : Files.FileTree) (kind : Kind) (paths : List Files.Path) (check : Bool) :
    Except Failure String :=
  if check ∧ kind.isJson = false then .error (.uncheckable kind)
  else
    match Artifact.find t kind paths with
    | .error cause => .error (.failed (.io cause))
    | .ok [] => .ok s!"No {kind.readableName} artifacts found.\n"
    | .ok files =>
      match files.mapM (artifactLine t kind check) with
      | .error e => .error (.failed e)
      | .ok lines =>
        .ok (String.join lines ++ s!"{files.length} {kind.readableName} artifact(s)\n")

end TestImpact.Command
