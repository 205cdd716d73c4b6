namespace TestImpact

variable {ε ε' α β : Type}

@[simp] theorem isOk_ok (a : α) : (Except.ok a : Except ε α).isOk = true := rfl

@[simp] theorem isOk_error (e : ε) : (Except.error e : Except ε α).isOk = false := rfl

@[simp] theorem mapError_ok (f : ε → ε') (a : α) :
    (Except.ok a : Except ε α).mapError f = .ok a := rfl

@[simp] theorem mapError_error (f : ε → ε') (e : ε) :
    (Except.error e : Except ε α).mapError f = .error (f e) := rfl

@[simp] theorem ok_bind (a : α) (f : α → Except ε β) : (Except.ok a >>= f) = f a := rfl

@[simp] theorem error_bind (e : ε) (f : α → Except ε β) : (Except.error e >>= f) = .error e := rfl

@[simp] theorem pure_eq_ok (a : α) : (pure a : Except ε α) = .ok a := rfl

theorem bind_eq_ok {x : Except ε α} {f : α → Except ε β} {b : β} :
    (x >>= f) = .ok b ↔ ∃ a, x = .ok a ∧ f a = .ok b := by
  cases x <;> simp

theorem map_eq_error {x : Except ε α} {f : α → β} {e : ε} :
    x.map f = .error e ↔ x = .error e := by
  cases x <;> simp [Except.map]

section Each

variable {f : α → Except ε β} {xs : List α} {ys : List β} {e : ε}

theorem mapM_eq_ok_iff : xs.mapM f = .ok ys ↔
    ∃ pairs : List (α × β), pairs.map Prod.fst = xs ∧ pairs.map Prod.snd = ys ∧
      ∀ pair ∈ pairs, f pair.1 = .ok pair.2 := by
  induction xs generalizing ys with
  | nil =>
    simp only [List.mapM_nil, pure_eq_ok, Except.ok.injEq, List.map_eq_nil_iff]
    constructor
    · rintro rfl
      exact ⟨[], rfl, rfl, nofun⟩
    · rintro ⟨_, rfl, same, -⟩
      exact same
  | cons x xs ih =>
    rw [List.mapM_cons, bind_eq_ok]
    constructor
    · rintro ⟨y, here, ended⟩
      obtain ⟨ys', rest, same⟩ := bind_eq_ok.mp ended
      cases same
      obtain ⟨pairs, rfl, rfl, each⟩ := ih.mp rest
      exact ⟨(x, y) :: pairs, rfl, rfl, List.forall_mem_cons.mpr ⟨here, each⟩⟩
    · rintro ⟨pairs, front, rfl, each⟩
      obtain ⟨⟨_, y⟩, pairs, rfl, rfl, rfl⟩ := List.map_eq_cons_iff.mp front
      obtain ⟨here, each⟩ := List.forall_mem_cons.mp each
      exact ⟨y, here, by rw [ih.mpr ⟨pairs, rfl, rfl, each⟩]; rfl⟩

theorem mapM_eq_error_iff : xs.mapM f = .error e ↔
    ∃ before x after, xs = before ++ x :: after ∧ (∀ y ∈ before, (f y).isOk) ∧
      f x = .error e := by
  induction xs with
  | nil => simp
  | cons x xs ih =>
    rw [List.mapM_cons]
    cases here : f x with
    | error e' =>
      simp only [error_bind, Except.error.injEq]
      constructor
      · rintro rfl
        exact ⟨[], x, xs, rfl, nofun, here⟩
      · rintro ⟨before, x', after, split, fine, failed⟩
        cases before with
        | nil =>
          cases split
          exact Except.error.inj (here.symm.trans failed)
        | cons y before =>
          cases split
          simpa [here] using fine x List.mem_cons_self
    | ok y =>
      have rest : (do let ys ← xs.mapM f; pure (y :: ys)) = .error e ↔ xs.mapM f = .error e := by
        cases xs.mapM f <;> simp
      rw [ok_bind, rest, ih]
      constructor
      · rintro ⟨before, x', after, rfl, fine, failed⟩
        exact ⟨x :: before, x', after, rfl, by simpa [here] using fine, failed⟩
      · rintro ⟨before, x', after, split, fine, failed⟩
        cases before with
        | nil =>
          cases split
          cases here.symm.trans failed
        | cons y before =>
          cases split
          exact ⟨before, x', after, rfl, fun z member => fine z (List.mem_cons_of_mem _ member),
            failed⟩

end Each

end TestImpact
