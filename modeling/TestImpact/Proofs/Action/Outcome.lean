import TestImpact.Action
import TestImpact.Proofs.Except

namespace TestImpact.Action

variable {ε ε' σ τ ω α β : Type}

/-- What an operation gives and the world it leaves. What it logs is left out. -/
def outcome (x : Action ε σ α) (s : σ) : Except (Halt ε) α × σ := ((x s).result, (x s).state)

@[simp] theorem outcome_pure (a : α) (s : σ) : (pure a : Action ε σ α).outcome s = (.ok a, s) := rfl

@[simp] theorem outcome_done (a : α) (s : σ) : (done a : Action ε σ α).outcome s = (.ok a, s) := rfl

@[simp] theorem outcome_fail (e : ε) (s : σ) :
    (fail e : Action ε σ α).outcome s = (.error (.failed e), s) := rfl

@[simp] theorem outcome_log (level : Level) (text : String) (s : σ) :
    (log level text : Action ε σ Unit).outcome s = (.ok (), s) := rfl

@[simp] theorem outcome_look (f : σ → α) (s : σ) :
    (look f : Action ε σ α).outcome s = (.ok (f s), s) := rfl

@[simp] theorem outcome_change (f : σ → σ) (s : σ) :
    (change f : Action ε σ Unit).outcome s = (.ok (), f s) := rfl

@[simp] theorem outcome_step (f : σ → α × σ) (s : σ) :
    (step f : Action ε σ α).outcome s = (.ok (f s).1, (f s).2) := rfl

@[simp] theorem outcome_bind (x : Action ε σ α) (f : α → Action ε σ β) (s : σ) :
    (x >>= f).outcome s =
      match x.outcome s with
      | (.ok a, s') => (f a).outcome s'
      | (.error h, s') => (.error h, s') := by
  show ((x s).andThen f |>.result, (x s).andThen f |>.state) = _
  rcases run : x s with ⟨_ | _, s', lines⟩ <;> simp [outcome, run, Run.andThen]

@[simp] theorem outcome_map (f : α → β) (x : Action ε σ α) (s : σ) :
    (f <$> x).outcome s =
      match x.outcome s with
      | (.ok a, s') => (.ok (f a), s')
      | (.error h, s') => (.error h, s') := by
  rw [← bind_pure_comp, outcome_bind]
  rfl

theorem outcome_map_state (f : α → β) (x : Action ε σ α) (s : σ) :
    ((f <$> x).outcome s).2 = (x.outcome s).2 := by
  rw [outcome_map]
  rcases x.outcome s with ⟨_ | _, s'⟩ <;> rfl

@[simp] theorem outcome_attempt (x : Action ε σ α) (s : σ) :
    (x.attempt : Action ε' σ (Except ε α)).outcome s =
      match x.outcome s with
      | (.ok a, s') => (.ok (.ok a), s')
      | (.error (.failed e), s') => (.ok (.error e), s')
      | (.error .unwound, s') => (.error .unwound, s') := by
  rcases run : x s with ⟨(_ | _) | _, s', lines⟩ <;> simp [outcome, attempt, run]

@[simp] theorem outcome_mapError (f : ε → ε') (x : Action ε σ α) (s : σ) :
    (x.mapError f).outcome s =
      match x.outcome s with
      | (.ok a, s') => (.ok a, s')
      | (.error (.failed e), s') => (.error (.failed (f e)), s')
      | (.error .unwound, s') => (.error .unwound, s') := by
  rcases run : x s with ⟨(_ | _) | _, s', lines⟩ <;> simp [outcome, mapError, run]

@[simp] theorem outcome_lift (x : Action Empty σ α) (s : σ) :
    (x.lift : Action ε σ α).outcome s =
      match x.outcome s with
      | (.ok a, s') => (.ok a, s')
      | (.error _, s') => (.error .unwound, s') := by
  rw [lift, outcome_mapError]
  rcases x.outcome s with ⟨(e | _) | _, s'⟩
  · exact e.elim
  · rfl
  · rfl

@[simp] theorem outcome_onFst (x : Action ε σ α) (s : σ) (t : τ) :
    (x.onFst : Action ε (σ × τ) α).outcome (s, t) =
      ((x.outcome s).1, (x.outcome s).2, t) := rfl

@[simp] theorem outcome_onSnd (x : Action ε σ α) (s : σ) (t : τ) :
    (x.onSnd : Action ε (τ × σ) α).outcome (t, s) =
      ((x.outcome s).1, t, (x.outcome s).2) := rfl

theorem outcome_forM_cons (f : α → Action ε σ Unit) (x : α) (xs : List α) (s : σ) :
    ((x :: xs).forM f).outcome s =
      match (f x).outcome s with
      | (.ok _, s') => (xs.forM f).outcome s'
      | (.error h, s') => (.error h, s') := by
  rw [List.forM, outcome_bind]
  rcases (f x).outcome s with ⟨_ | _, s'⟩ <;> rfl

theorem forM_keeps {f : α → Action ε σ Unit} {kept : σ → Prop} {xs : List α} {s : σ}
    (each : ∀ x ∈ xs, ∀ s, kept s → kept ((f x).outcome s).2) (start : kept s) :
    kept ((xs.forM f).outcome s).2 := by
  induction xs generalizing s with
  | nil => exact start
  | cons x xs ih =>
    have here := each x List.mem_cons_self s start
    rw [outcome_forM_cons]
    rcases ran : (f x).outcome s with ⟨_ | _, s'⟩ <;> rw [ran] at here
    · exact here
    · exact ih (fun y member => each y (List.mem_cons_of_mem _ member)) here

/-- Whether what an operation brings about is `good` for its answer, or `bad` if it has none. -/
def Leads (x : Action ε σ α) (good : α → σ → Prop) (bad : σ → Prop) (s : σ) : Prop :=
  match x.outcome s with
  | (.ok a, s') => good a s'
  | (.error _, s') => bad s'

theorem Leads.mono {x : Action ε σ α} {good good' : α → σ → Prop} {bad bad' : σ → Prop} {s : σ}
    (leads : x.Leads good bad s) (answered : ∀ a s', good a s' → good' a s')
    (failed : ∀ s', bad s' → bad' s') : x.Leads good' bad' s := by
  unfold Leads at leads ⊢
  rcases run : x.outcome s with ⟨_ | _, s'⟩ <;> rw [run] at leads
  · exact failed s' leads
  · exact answered _ s' leads

theorem Leads.state {x : Action ε σ α} {q : σ → Prop} {s : σ} (leads : x.Leads (fun _ => q) q s) :
    q (x.outcome s).2 := by
  unfold Leads at leads
  rcases run : x.outcome s with ⟨_ | _, s'⟩ <;> rwa [run] at leads

theorem Leads.of_state {x : Action ε σ α} {q : σ → Prop} {s : σ} (left : q (x.outcome s).2) :
    x.Leads (fun _ => q) q s := by
  unfold Leads
  rcases run : x.outcome s with ⟨_ | _, s'⟩ <;> rwa [run] at left

def noted (note : Except (Halt ε) α → ω) (x : Action ε σ α) : Action ε (σ × List ω) α := fun s =>
  let run := x s.1
  ⟨run.result, (run.state, s.2 ++ [note run.result]), run.log⟩

@[simp] theorem outcome_noted (note : Except (Halt ε) α → ω) (x : Action ε σ α) (s : σ)
    (notes : List ω) :
    (x.noted note).outcome (s, notes) =
      ((x.outcome s).1, (x.outcome s).2, notes ++ [note (x.outcome s).1]) := rfl

def Succeeds (x : Action ε σ α) : Prop := ∀ w, ∃ a w', x.outcome w = (.ok a, w')

def Returns (x : Action ε σ α) : Prop := ∀ w, (x.outcome w).1 ≠ .error .unwound

theorem Succeeds.noted {x : Action ε σ α} (succeeds : x.Succeeds)
    (note : Except (Halt ε) α → ω) : (x.noted note).Succeeds := by
  rintro ⟨w, notes⟩
  obtain ⟨a, w', answered⟩ := succeeds w
  exact ⟨a, (w', notes ++ [note (.ok a)]), by rw [outcome_noted, answered]⟩

theorem Returns.noted {x : Action ε σ α} (returns : x.Returns)
    (note : Except (Halt ε) α → ω) : (x.noted note).Returns := by
  rintro ⟨w, notes⟩
  rw [outcome_noted]
  exact returns w

end TestImpact.Action
