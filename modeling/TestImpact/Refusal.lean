import TestImpact.Web.Url.Host

namespace TestImpact

inductive Refusal
  | unknownReportFormat (name : String) (supported : List String)
  | unknownArtifactKind (name : String) (supported : List String)
  | colonInBranch (branch : String)
  | emptyCommit
  | malformedUrl (text : String) (fault : Web.UrlFault)
  | opaqueUrl (text : String)
  | blankProject
  | blankPartition
  | unpairedCredentials
  | duplicateTest (path : String)
  | other (text : String)
  deriving DecidableEq, Repr

namespace Refusal

def reason : Refusal → String
  | unknownReportFormat name supported =>
    s!"Unknown report format: '{name}'. Supported: " ++ ", ".intercalate supported
  | unknownArtifactKind name supported =>
    s!"Unknown artifact format: '{name}'. Supported: " ++ ", ".intercalate supported
  | colonInBranch branch => s!"branch name '{branch}' must not contain ':'"
  | emptyCommit => "commit descriptor must not be empty"
  | malformedUrl text fault => s!"invalid URL '{text}': {fault.message}"
  | opaqueUrl text => s!"'{text}' cannot be a base URL"
  | blankProject => "upload project must not be empty"
  | blankPartition => "upload partition must not be empty"
  | unpairedCredentials => "user and access key must be given together"
  | duplicateTest path => s!"duplicate uniform path in test list: {path}"
  | other text => text

def message (r : Refusal) : String := "Invalid input: " ++ r.reason

end Refusal

end TestImpact
