import TestImpact.Action

namespace TestImpact

/-- The clocks of a world: the time of day in milliseconds of the epoch, and a stopwatch in
    milliseconds that never runs backwards. -/
structure Clock (σ : Type) where
  epochMillis : Action Empty σ Int
  stopwatch : Action Empty σ Nat

end TestImpact
