import TestImpact.Proofs.Session.Calls

namespace TestImpact

open Action

variable {σ α : Type}

structure Reply where
  call : Call
  answer : Except (Halt Error) Unit

def Reply.of (call : Call) (r : Except (Halt Error) α) : Reply := ⟨call, r.map fun _ => ()⟩

def Halt.afterRetry (operation : String) : Halt Error → Halt Error
  | .failed e => .failed (e.afterRetry operation)
  | .unwound => .unwound

/-- The replies to one call, and what it gives in the end: the only answer, or what becomes of the
    second one after a first that was lost. -/
inductive Replied (operation : String) (call : Call) :
    List Reply → Except (Halt Error) Unit → Prop
  | once {answer : Except (Halt Error) Unit}
      (heard : ∀ e, answer = .error (.failed e) → e.isConnectivity = false) :
      Replied operation call [⟨call, answer⟩] answer
  | twice {e : Error} {answer : Except (Halt Error) Unit} (lost : e.isConnectivity = true) :
      Replied operation call [⟨call, .error (.failed e)⟩, ⟨call, answer⟩]
        (answer.mapError (Halt.afterRetry operation))

theorem withRetry_replied (operation : String) (call : Call) (x : Action Error σ α) (w : σ) :
    let asked := (withRetry operation (x.noted (Reply.of call))).outcome (w, [])
    Replied operation call asked.2.2 (asked.1.map fun _ => ()) := by
  intro asked
  simp only [asked, outcome_withRetry, outcome_noted]
  rcases first : x.outcome w with ⟨(e | _) | a, w₁⟩
  · by_cases lost : e.isConnectivity
    · rcases second : x.outcome w₁ with ⟨(e' | _) | a, w₂⟩ <;>
        simp only [lost, if_true, outcome_noted, second] <;> exact .twice lost
    · simp only [if_neg lost]
      refine .once fun e' same => ?_
      cases same
      exact Bool.eq_false_iff.mpr lost
  · exact .once nofun
  · exact .once nofun

namespace Replied

variable {operation : String} {call : Call} {replies : List Reply}
  {result : Except (Halt Error) Unit}

/-- An error that retrying neither answers nor makes is given exactly if the last reply is that
    error. -/
theorem error_iff (replied : Replied operation call replies result) {e : Error}
    (heard : e.isConnectivity = false) (unwrapped : ∀ last, e ≠ .retriesExhausted operation last) :
    result = .error (.failed e) ↔
      ∃ earlier c, replies = earlier ++ [⟨c, .error (.failed e)⟩] := by
  cases replied with
  | once others =>
    constructor
    · rintro rfl
      exact ⟨[], call, rfl⟩
    · rintro ⟨earlier, c, split⟩
      have split' : [] ++ [⟨call, result⟩] = earlier ++ [⟨c, .error (.failed e)⟩] := split
      obtain ⟨-, last⟩ := List.append_inj' split' rfl
      cases last
      rfl
  | @twice first answer =>
    have kept : e.afterRetry operation = e := by simp [Error.afterRetry, heard]
    constructor
    · intro given
      rcases answer with (e' | _) | _
      · have same : e'.afterRetry operation = e := by
          simpa [Halt.afterRetry] using given
        unfold Error.afterRetry at same
        split at same
        · exact absurd same.symm (unwrapped e')
        · subst same
          exact ⟨[⟨call, .error (.failed first)⟩], call, rfl⟩
      · cases given
      · cases given
    · rintro ⟨earlier, c, split⟩
      have split' : [⟨call, .error (.failed first)⟩] ++ [⟨call, answer⟩] =
          earlier ++ [⟨c, .error (.failed e)⟩] := split
      obtain ⟨-, last⟩ := List.append_inj' split' rfl
      cases last
      simp [Halt.afterRetry, kept]

end Replied

def Client.contrary : Client Unit where
  service :=
    { description := "contrary"
      register := fun _ => .fail (.refused (.other "not now"))
      startTest := fun _ _ => .done ()
      endTest := fun _ _ _ => .fail (.misuse (.other "not now"))
      endRun := fun _ _ => .fail (.misuse (.other "not now")) }
  clock := ⟨.done 0, .done 0⟩

end TestImpact
