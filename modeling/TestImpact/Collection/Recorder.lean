import TestImpact.Action
import TestImpact.Collection.Arena
import TestImpact.Error
import TestImpact.Report.Format

namespace TestImpact

structure Recorder (σ : Type) where
  reset : Snapshot → Action Empty σ Unit
  /-- From now on what runs is counted for the test. -/
  beginWindow : Snapshot → String → Action Error σ Unit
  /-- Ends the window of the test and gives its coverage, a line `path:ranges` for each file. -/
  endWindow : Snapshot → String → Action Error σ String
  buildReport : Snapshot → Report.Format → Action Error σ String

end TestImpact
