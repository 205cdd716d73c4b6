import TestImpact.Delivery.Store

namespace TestImpact

def Store.orElse {σ : Type} (first second : Store σ) : Store σ where
  description := s!"{first.description} (fallback: {second.description})"
  store report := do
    match ← (first.store report).attempt with
    | .ok delivered => return delivered
    | .error e =>
      Action.log .warn <|
        s!"Delivery to {first.description} failed: {DeliveryError.message e}. " ++
          s!"Keeping the report in {second.description} instead"
      match ← (second.store report).attempt with
      | .ok delivered => return delivered
      | .error e =>
        Action.log .error <|
          s!"Fallback to {second.description} failed as well, " ++
            s!"the report was not persisted: {DeliveryError.message e}"
        .fail e

end TestImpact
