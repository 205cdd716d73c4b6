import TestImpact.Clock
import TestImpact.Delivery.Store
import TestImpact.Files.Disk
import TestImpact.Report.Format

namespace TestImpact

/-- The name of a report that was written at a point in time. Two reports of one format and one
    millisecond have one name. -/
def Report.Format.fileName (f : Report.Format) (epochMillis : Int) : String :=
  s!"{f.stem}-{epochMillis}.{f.extension}"

def directoryStore {σ : Type} (disk : Files.Disk σ) (clock : Clock σ) (directory : Files.Path)
    (format : Report.Format) : Store σ where
  description := "local directory " ++ directory.display
  store report := do
    (disk.ensureDirectory directory).mapError fun cause => .unwritten directory cause
    let now ← clock.epochMillis.lift
    let path := directory.child (Text.Utf8.encode (format.fileName now))
    (disk.write path (Text.Utf8.encode report)).mapError fun cause => .unwritten path cause
    Action.log .info s!"Wrote {format.readableName} report to {path.display}"
    return .written path

end TestImpact
