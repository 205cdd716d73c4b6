import TestImpact.Action
import TestImpact.Error
import TestImpact.Run.Execution
import TestImpact.Run.Plan

namespace TestImpact

structure Service (σ : Type) where
  description : String
  register : Registration → Action Error σ Plan
  startTest : String → String → Action Error σ Unit
  /-- Closes the window of a session's test; gives its coverage if that is asked for. -/
  endTest : String → Execution → Bool → Action Error σ (Option Attribution)
  /-- Closes a session; delivers its report if that is asked for. -/
  endRun : String → Bool → Action Error σ Unit

end TestImpact
