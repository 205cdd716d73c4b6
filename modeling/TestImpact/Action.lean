import TestImpact.Log

namespace TestImpact

/-- How an operation stops short: with an error that its caller receives, or by unwinding past
    every caller. -/
inductive Halt (ε : Type)
  | failed (error : ε)
  | unwound

structure Run (ε σ α : Type) where
  result : Except (Halt ε) α
  state : σ
  log : List LogLine

def Run.andThen {ε σ α β : Type} (run : Run ε σ α) (next : α → σ → Run ε σ β) : Run ε σ β :=
  match run.result with
  | .ok a =>
    let rest := next a run.state
    ⟨rest.result, rest.state, run.log ++ rest.log⟩
  | .error h => ⟨.error h, run.state, run.log⟩

theorem Run.andThen_assoc {ε σ α β γ : Type} (run : Run ε σ α) (f : α → σ → Run ε σ β)
    (g : β → σ → Run ε σ γ) :
    (run.andThen f).andThen g = run.andThen fun a s => (f a s).andThen g := by
  rcases run with ⟨r, s, lines⟩
  cases r with
  | error h => rfl
  | ok a =>
    simp only [andThen]
    cases (f a s).result <;> simp

/-- An operation on a world `σ`. What it changed and logged before it stopped short stays changed
    and logged, which is why the result stands beside the state and not around it. -/
def Action (ε σ α : Type) : Type := σ → Run ε σ α

namespace Action

variable {ε ε' σ τ α β : Type}

def done (a : α) : Action ε σ α := fun s => ⟨.ok a, s, []⟩

def fail (e : ε) : Action ε σ α := fun s => ⟨.error (.failed e), s, []⟩

def unwind : Action ε σ α := fun s => ⟨.error .unwound, s, []⟩

def log (level : Level) (text : String) : Action ε σ Unit := fun s => ⟨.ok (), s, [⟨level, text⟩]⟩

def look (f : σ → α) : Action ε σ α := fun s => ⟨.ok (f s), s, []⟩

def change (f : σ → σ) : Action ε σ Unit := fun s => ⟨.ok (), f s, []⟩

def step (f : σ → α × σ) : Action ε σ α := fun s => ⟨.ok (f s).1, (f s).2, []⟩

def ofExcept : Except ε α → Action ε σ α
  | .ok a => done a
  | .error e => fail e

def andThen (x : Action ε σ α) (f : α → Action ε σ β) : Action ε σ β :=
  fun s => (x s).andThen f

instance : Monad (Action ε σ) where
  pure := done
  bind := andThen

def attempt (x : Action ε σ α) : Action ε' σ (Except ε α) := fun s =>
  match x s with
  | ⟨.ok a, s', lines⟩ => ⟨.ok (.ok a), s', lines⟩
  | ⟨.error (.failed e), s', lines⟩ => ⟨.ok (.error e), s', lines⟩
  | ⟨.error .unwound, s', lines⟩ => ⟨.error .unwound, s', lines⟩

def mapError (f : ε → ε') (x : Action ε σ α) : Action ε' σ α := fun s =>
  match x s with
  | ⟨.ok a, s', lines⟩ => ⟨.ok a, s', lines⟩
  | ⟨.error (.failed e), s', lines⟩ => ⟨.error (.failed (f e)), s', lines⟩
  | ⟨.error .unwound, s', lines⟩ => ⟨.error .unwound, s', lines⟩

def lift (x : Action Empty σ α) : Action ε σ α := x.mapError Empty.elim

def zoom (view : τ → σ) (put : σ → τ → τ) (x : Action ε σ α) : Action ε τ α := fun t =>
  match x (view t) with
  | ⟨r, s, lines⟩ => ⟨r, put s t, lines⟩

def onFst (x : Action ε σ α) : Action ε (σ × τ) α := zoom Prod.fst (fun s t => (s, t.2)) x

def onSnd (x : Action ε σ α) : Action ε (τ × σ) α := zoom Prod.snd (fun s t => (t.1, s)) x

instance : LawfulMonad (Action ε σ) := LawfulMonad.mk' _
  (by
    intro α x
    funext s
    show (x s).andThen (fun a => done a) = x s
    rcases x s with ⟨r, s', lines⟩
    cases r <;> simp [Run.andThen, done])
  (by
    intro α β a f
    funext s
    show (done a s).andThen f = f a s
    simp [Run.andThen, done])
  (by
    intro α β γ x f g
    funext s
    exact Run.andThen_assoc (x s) f g)

end Action

end TestImpact
