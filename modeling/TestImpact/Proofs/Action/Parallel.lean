import TestImpact.Action

namespace TestImpact.Action

variable {ε ε' σ τ α β : Type}

/-- In worlds that are alike both operations give one result and log one text, and the worlds that
    they leave are alike. -/
def Parallel (r : σ → σ → Prop) (x y : Action ε σ α) : Prop :=
  ∀ s s', r s s' →
    (x s).result = (y s').result ∧ (x s).log = (y s').log ∧ r (x s).state (y s').state

namespace Parallel

variable {r : σ → σ → Prop}

theorem done (a : α) : Parallel r (done a : Action ε σ α) (.done a) :=
  fun _ _ same => ⟨rfl, rfl, same⟩

theorem fail (e : ε) : Parallel r (fail e : Action ε σ α) (.fail e) :=
  fun _ _ same => ⟨rfl, rfl, same⟩

theorem log (level : Level) (text : String) :
    Parallel r (log level text : Action ε σ Unit) (.log level text) :=
  fun _ _ same => ⟨rfl, rfl, same⟩

theorem bind {x y : Action ε σ α} {f g : α → Action ε σ β} (first : Parallel r x y)
    (next : ∀ a, Parallel r (f a) (g a)) : Parallel r (x >>= f) (y >>= g) := by
  intro s s' same
  obtain ⟨result, log, left⟩ := first s s' same
  show ((x s).andThen f).result = ((y s').andThen g).result ∧
    ((x s).andThen f).log = ((y s').andThen g).log ∧
    r ((x s).andThen f).state ((y s').andThen g).state
  unfold Run.andThen
  rw [← result, ← log]
  cases (x s).result with
  | error h => exact ⟨rfl, rfl, left⟩
  | ok a =>
    obtain ⟨result', log', left'⟩ := next a _ _ left
    exact ⟨result', congrArg ((x s).log ++ ·) log', left'⟩

theorem attempt {x y : Action ε σ α} (both : Parallel r x y) :
    Parallel r (x.attempt : Action ε' σ (Except ε α)) y.attempt := by
  intro s s' same
  obtain ⟨result, log, left⟩ := both s s' same
  rcases first : x s with ⟨(_ | _) | _, _, _⟩ <;> rcases second : y s' with ⟨(_ | _) | _, _, _⟩ <;>
    simp_all [Action.attempt]

theorem mapError (f : ε → ε') {x y : Action ε σ α} (both : Parallel r x y) :
    Parallel r (x.mapError f) (y.mapError f) := by
  intro s s' same
  obtain ⟨result, log, left⟩ := both s s' same
  rcases first : x s with ⟨(_ | _) | _, _, _⟩ <;> rcases second : y s' with ⟨(_ | _) | _, _, _⟩ <;>
    simp_all [Action.mapError]

theorem lift {x y : Action Empty σ α} (both : Parallel r x y) :
    Parallel r (x.lift : Action ε σ α) y.lift := both.mapError _

theorem zoom {view : σ → τ} {put : τ → σ → σ} (sees : ∀ s s', r s s' → view s = view s')
    (puts : ∀ v s s', r s s' → r (put v s) (put v s')) (x : Action ε τ α) :
    Parallel r (x.zoom view put) (x.zoom view put) := by
  intro s s' same
  unfold Action.zoom
  rw [← sees s s' same]
  exact ⟨rfl, rfl, puts _ s s' same⟩

end Parallel

end TestImpact.Action
