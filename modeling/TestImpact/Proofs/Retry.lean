import TestImpact.Proofs.Action.Outcome
import TestImpact.Retry

namespace TestImpact

open Action

variable {σ ω α : Type}

def Action.everySecond (a : α) : Action Error Nat α := fun n =>
  ⟨if n % 2 = 0 then .error (.failed (.connectivity "peer" "refused")) else .ok a, n + 1, []⟩

def Error.afterRetry (operation : String) (e : Error) : Error :=
  if e.isConnectivity then .retriesExhausted operation e else e

theorem outcome_withRetry (operation : String) (op : Action Error σ α) (s : σ) :
    (withRetry operation op).outcome s =
      match op.outcome s with
      | (.error (.failed e), s') =>
        if e.isConnectivity then
          match op.outcome s' with
          | (.error (.failed e'), s'') => (.error (.failed (e'.afterRetry operation)), s'')
          | answered => answered
        else (.error (.failed e), s')
      | answered => answered := by
  rcases first : op.outcome s with ⟨(e | _) | a, s'⟩
  · by_cases lost : e.isConnectivity
    · rcases second : op.outcome s' with ⟨(e' | _) | a, s''⟩
      · by_cases again : e'.isConnectivity <;>
          simp [withRetry, first, second, lost, again, Error.afterRetry]
      · simp [withRetry, first, second, lost]
      · simp [withRetry, first, second, lost]
    · simp [withRetry, first, lost]
  · simp [withRetry, first]
  · simp [withRetry, first]

theorem withRetry_of_ok {operation : String} {op : Action Error σ α} {w w' : σ} {a : α}
    (answered : op.outcome w = (.ok a, w')) :
    (withRetry operation op).outcome w = (.ok a, w') := by
  rw [outcome_withRetry, answered]

theorem withRetry_of_lost (operation : String) {op : Action Error σ α} {w w' : σ} {e : Error}
    (failed : op.outcome w = (.error (.failed e), w')) (lost : e.isConnectivity = true) :
    (withRetry operation op).outcome w =
      match op.outcome w' with
      | (.error (.failed e'), w'') => (.error (.failed (e'.afterRetry operation)), w'')
      | answered => answered := by
  rw [outcome_withRetry, failed]
  exact if_pos lost

theorem withRetry_of_heard (operation : String) {op : Action Error σ α} {w : σ}
    (heard : ∀ e, (op.outcome w).1 = .error (.failed e) → e.isConnectivity = false) :
    (withRetry operation op).outcome w = op.outcome w := by
  rw [outcome_withRetry]
  rcases first : op.outcome w with ⟨(e | _) | a, w'⟩
  · simp [heard e (by rw [first])]
  · rfl
  · rfl

theorem withRetry_map {β : Type} (operation : String) (f : α → β) (op : Action Error σ α) (w : σ) :
    (withRetry operation (f <$> op)).outcome w = (f <$> withRetry operation op).outcome w := by
  simp only [outcome_map, outcome_withRetry]
  rcases op.outcome w with ⟨(e | _) | a, w'⟩
  · by_cases lost : e.isConnectivity
    · rcases again : op.outcome w' with ⟨(e' | _) | a, w''⟩ <;> simp [lost, again]
    · simp [lost]
  · rfl
  · rfl

theorem withRetry_leads {operation : String} {op : Action Error σ α} {good : α → σ → Prop}
    {between bad : σ → Prop} {s : σ} (first : op.Leads good between s)
    (stays : ∀ s', between s' → bad s') (again : ∀ s', between s' → op.Leads good bad s') :
    (withRetry operation op).Leads good bad s := by
  unfold Leads at first ⊢
  rw [outcome_withRetry]
  rcases attempt : op.outcome s with ⟨(e | _) | a, s'⟩ <;> rw [attempt] at first
  · by_cases lost : e.isConnectivity
    · have second := again s' first
      unfold Leads at second
      simp only [if_pos lost]
      rcases retried : op.outcome s' with ⟨(e' | _) | a, s''⟩ <;> rw [retried] at second <;>
        exact second
    · simp only [if_neg lost]
      exact stays s' first
  · exact stays s' first
  · exact first

theorem withRetry_keeps (operation : String) {op : Action Error σ α} {kept : σ → Prop} {s : σ}
    (keeps : ∀ s, kept s → kept (op.outcome s).2) (start : kept s) :
    kept ((withRetry operation op).outcome s).2 :=
  (withRetry_leads (.of_state (keeps s start)) (fun _ still => still)
    fun s' still => .of_state (keeps s' still)).state

theorem withRetry_noted (operation : String) (note : Except (Halt Error) α → ω)
    (x : Action Error σ α) (w : σ) (notes : List ω) :
    let noted := (withRetry operation (x.noted note)).outcome (w, notes)
    (noted.1, noted.2.1) = (withRetry operation x).outcome w := by
  simp only [outcome_withRetry, outcome_noted]
  rcases first : x.outcome w with ⟨(e | _) | a, w'⟩
  · by_cases lost : e.isConnectivity
    · rcases second : x.outcome w' with ⟨(e' | _) | a, w''⟩ <;> simp [lost, second]
    · simp [lost]
  · rfl
  · rfl

/-- An answer that only tells that the other side was not reached. -/
def Unheard (answer : Except (Halt Error) α) : Prop :=
  ∃ e, answer = .error (.failed e) ∧ e.isConnectivity = true

theorem not_unheard_iff {answer : Except (Halt Error) α} :
    ¬ Unheard answer ↔ ∀ e, answer = .error (.failed e) → e.isConnectivity = false := by
  simp [Unheard]

theorem withRetry_of_unheard (operation : String) {op : Action Error σ α} {w : σ}
    (unheard : Unheard (op.outcome w).1) :
    let again := op.outcome (op.outcome w).2
    let retried := (withRetry operation op).outcome w
    retried.2 = again.2 ∧ (¬ Unheard again.1 → retried.1 = again.1) ∧
      ∀ e, again.1 = .error (.failed e) → e.isConnectivity = true →
        retried.1 = .error (.failed (.retriesExhausted operation e)) := by
  obtain ⟨e, failed, lost⟩ := unheard
  rw [withRetry_of_lost operation (Prod.ext failed rfl) lost]
  rcases op.outcome (op.outcome w).2 with ⟨(e' | _) | a, w''⟩
  · refine ⟨rfl, fun heard => ?_, fun e'' same lost' => ?_⟩
    · have kept : e'.isConnectivity = false := not_unheard_iff.mp heard e' rfl
      simp [Error.afterRetry, kept]
    · cases same
      simp [Error.afterRetry, lost']
  · exact ⟨rfl, fun _ => rfl, nofun⟩
  · exact ⟨rfl, fun _ => rfl, nofun⟩

theorem withRetry_heard (operation : String) (op : Action Error σ α) (w : σ) :
    ¬ Unheard ((withRetry operation op).outcome w).1 := by
  by_cases unheard : Unheard (op.outcome w).1
  · obtain ⟨-, answered, wrapped⟩ := withRetry_of_unheard operation unheard
    by_cases again : Unheard (op.outcome (op.outcome w).2).1
    · obtain ⟨e, failed, lost⟩ := again
      rw [wrapped e failed lost]
      exact not_unheard_iff.mpr fun e' same => by cases same; rfl
    · rwa [answered again]
  · rwa [withRetry_of_heard operation (not_unheard_iff.mp unheard)]

/-- To retry an operation that is heard every time is to run it, down to the log. -/
theorem withRetry_eq_self (operation : String) {op : Action Error σ α}
    (heard : ∀ w, ¬ Unheard (op.outcome w).1) : withRetry operation op = op := by
  funext w
  have answer := not_unheard_iff.mp (heard w)
  show (op.attempt w).andThen _ = op w
  rcases ran : op w with ⟨(e | _) | a, w', lines⟩
  · have kept : e.isConnectivity = false := answer e (by simp [outcome, ran])
    simp [attempt, Run.andThen, ran, kept, fail]
  · simp [attempt, Run.andThen, ran]
  · simp [attempt, Run.andThen, ran, pure, done]

theorem withRetry_withRetry (outer inner : String) (op : Action Error σ α) :
    withRetry outer (withRetry inner op) = withRetry inner op :=
  withRetry_eq_self outer (withRetry_heard inner op)

/-- An operation is run again only if the first answer was unheard, and then from where the first
    run left the world. Nothing unheard comes of it, so another retry on top changes nothing. -/
theorem retried_once_if_unheard (operation : String) (op : Action Error σ α) (w : σ) :
    let first := op.outcome w
    let second := op.outcome first.2
    let noted := op.noted id
    let retried := (withRetry operation noted).outcome (w, [])
    (withRetry operation op).outcome w = (retried.1, retried.2.1) ∧
      (¬ Unheard first.1 → retried = (first.1, first.2, [first.1])) ∧
      (Unheard first.1 → retried.2 = (second.2, [first.1, second.1]) ∧
        (¬ Unheard second.1 → retried.1 = second.1) ∧
        ∀ e, second.1 = .error (.failed e) → e.isConnectivity = true →
          retried.1 = .error (.failed (.retriesExhausted operation e))) ∧
      ¬ Unheard retried.1 ∧
      (withRetry operation (withRetry operation noted)).outcome (w, []) = retried := by
  intro first second noted retried
  refine ⟨(withRetry_noted operation id op w []).symm, fun heard => ?_, fun unheard => ?_,
    withRetry_heard operation noted (w, []), by rw [withRetry_withRetry]⟩
  · have once : retried = noted.outcome (w, []) :=
      withRetry_of_heard operation (not_unheard_iff.mp heard)
    exact once
  · have lost : Unheard (noted.outcome (w, [])).1 := unheard
    exact withRetry_of_unheard operation lost

def Action.neverThere : Action Error Nat Unit := fun calls =>
  let reason := if calls = 0 then "refused" else "reset"
  ⟨.error (.failed (.connectivity "peer" reason)), calls + 1, []⟩

theorem neverThere_retried_once :
    let noted := Action.neverThere.noted id
    let retried := (withRetry "end test" noted).outcome (0, [])
    Unheard (Action.neverThere.outcome 0).1 ∧
      retried.1 = .error (.failed (.retriesExhausted "end test" (.connectivity "peer" "reset"))) ∧
      retried.2.1 = 2 ∧ retried.2.2.length = maxAttempts ∧
      (withRetry "end test" (withRetry "end test" noted)).outcome (0, []) = retried := by
  intro noted retried
  have unheard : Unheard (Action.neverThere.outcome 0).1 := ⟨_, rfl, rfl⟩
  obtain ⟨-, -, twice, -, nested⟩ := retried_once_if_unheard "end test" Action.neverThere 0
  obtain ⟨left, -, wrapped⟩ := twice unheard
  exact ⟨unheard, wrapped _ rfl rfl, congrArg Prod.fst left,
    congrArg (fun notes => notes.2.length) left, nested⟩

end TestImpact
