import TestImpact.Refusal
import TestImpact.Web.Url.Read

namespace TestImpact.Web

/-- Reads the URL that endpoints lie behind. Its path ends in a slash. -/
def baseUrl (text : String) : Except Refusal Url :=
  match Url.read text with
  | .error fault => .error (.malformedUrl text fault)
  | .ok .opaquePath => .error (.opaqueUrl text)
  | .ok (.hierarchical u) => .ok u.withFinalSlash

end TestImpact.Web
