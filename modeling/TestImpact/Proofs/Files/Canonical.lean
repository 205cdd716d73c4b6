import TestImpact.Proofs.Files.Stored

namespace TestImpact.Files.FileTree

variable {t : FileTree} {links : Nat} {p : Path} {d place : Location} {name : Name}
  {names rest tail : List Name}

/-- All places that a path leads through have paths from the root that are short enough. -/
def Straight (t : FileTree) (p : Path) : Prop :=
  t.strays linkLimit (if p.isAbsolute then [] else t.home) (steps p) = false

instance (t : FileTree) (p : Path) : Decidable (t.Straight p) :=
  inferInstanceAs (Decidable (_ = false))

theorem checkCanonical_eq (t : FileTree) (p : Path) :
    t.checkCanonical p = if t.Straight p then .ok () else .error .nameTooLong := by
  by_cases straight : t.Straight p
  · rw [if_pos straight, checkCanonical, straight]
    rfl
  · rw [if_neg straight, checkCanonical, Bool.of_not_eq_false straight]
    rfl

theorem names_of_list {names : List Name} (listing : t.list d = .ok names) : names = t.names d := by
  unfold list at listing
  split at listing
  · cases listing
  · exact (Except.ok.inj listing).symm

theorem list_of_open (opened : t.closed.get? d = none) : t.list d = .ok (t.names d) := by
  rw [list, opened]

theorem list_of_closed {cause : Cause} (closed : t.closed.get? d = some cause) :
    t.list d = .error cause := by
  rw [list, closed]

theorem asksDirectory_of_append (proper : Proper name)
    (asks : asksDirectory (rest ++ [name]) = true) : asksDirectory (rest ++ tail) = true := by
  induction rest with
  | nil => simp [asksDirectory, proper.named, proper.single, proper.double] at asks
  | cons first rest ih =>
    by_cases still : first = [] ∨ first = [dot]
    · have more : (rest ++ [name]).isEmpty = false := by simp
      simp only [List.cons_append, asksDirectory, if_pos still, more, Bool.false_or] at asks ⊢
      rw [ih asks, Bool.or_true]
    · simpa only [List.cons_append, asksDirectory, if_neg still] using asks

@[simp] theorem strays_nil : t.strays links place [] = false := by cases links <;> rfl

theorem strays_idle (idle : name = [] ∨ name = [dot]) :
    t.strays links place (name :: rest) = t.strays links place rest := by
  cases links <;> simp [strays, straysAlong, idle]

theorem strays_back :
    t.strays links place ([dot, dot] :: rest) = t.strays links place.dropLast rest := by
  cases links <;> simp [strays, straysAlong]

theorem strays_follow {target : Path} (looksUp : LooksUp .use name tail)
    (link : t.node? (place ++ [name]) = some (.link target)) :
    t.strays (links + 1) place (name :: rest) =
      (decide (pathLimit ≤ reach (place ++ [name])) ||
        t.strays links (if target.isAbsolute then [] else place) (steps target ++ rest)) := by
  obtain ⟨⟨named, single, double⟩, -, -⟩ := looksUp
  simp [strays, straysAlong, named, single, double, link]

theorem strays_enter {n : Node} (proper : name ≠ [] ∧ name ≠ [dot] ∧ name ≠ [dot, dot])
    (found : t.node? (place ++ [name]) = some n) (solid : ∀ target, n ≠ .link target) :
    t.strays links place (name :: rest) =
      (decide (pathLimit ≤ reach (place ++ [name]) + (asksDirectory rest).toNat) ||
        t.strays links (place ++ [name]) rest) := by
  obtain ⟨named, single, double⟩ := proper
  cases n with
  | link target => exact absurd rfl (solid target)
  | directory | file | sink | barred =>
    cases links <;> simp [strays, straysAlong, named, single, double, found]

theorem Walks.strays_entry {q : Place} {n : Node} (walks : Walks t .use links place names q)
    (ends : q = .found d) (proper : Proper name) (found : t.node? (d ++ [name]) = some n)
    (solid : ∀ target, n ≠ .link target)
    (straight : t.strays links place (names ++ tail) = false) :
    t.strays links place (names ++ [name]) = decide (pathLimit ≤ reach (d ++ [name])) := by
  induction walks with
  | arrive =>
    cases ends
    rw [List.nil_append, strays_enter ⟨proper.named, proper.single, proper.double⟩ found solid,
      strays_nil, Bool.or_false]
    rfl
  | vacant => cases ends
  | stay _ still _ ih =>
    rw [List.cons_append, strays_idle still] at straight ⊢
    exact ih ends straight
  | back _ _ ih =>
    rw [List.cons_append, strays_back] at straight ⊢
    exact ih ends straight
  | follow _ looksUp link _ ih =>
    rw [List.cons_append, strays_follow looksUp link, ← List.append_assoc] at straight ⊢
    obtain ⟨short, straight⟩ := Bool.or_eq_false_iff.mp straight
    rw [short, Bool.false_or, ih ends straight]
  | @enter links place first rest _ _ _ looksUp there other _ ih =>
    rw [List.cons_append, strays_enter looksUp.proper there other] at straight ⊢
    obtain ⟨short, straight⟩ := Bool.or_eq_false_iff.mp straight
    have short' : decide (pathLimit ≤ reach (place ++ [first]) +
        (asksDirectory (rest ++ [name])).toNat) = false := by
      cases asks : asksDirectory (rest ++ [name]) with
      | true => rwa [asksDirectory_of_append proper asks] at short
      | false =>
        simp only [decide_eq_false_iff_not, Bool.toNat_false] at short ⊢
        omega
    rw [short', Bool.false_or, ih ends straight]

theorem straight_child_iff {n : Node} (resolved : t.resolve p = .ok d)
    (directory : t.node? d = some .directory) (proper : Proper name)
    (found : t.node? (d ++ [name]) = some n) (solid : ∀ target, n ≠ .link target)
    (straight : t.Straight p) : t.Straight (p.child name) ↔ reach (d ++ [name]) < pathLimit := by
  obtain ⟨-, walks⟩ := (resolve_directory_iff directory).mp resolved
  obtain ⟨tail, split⟩ : ∃ tail, steps p = p.names ++ tail := by
    rcases steps_eq_or p with split | split
    · exact ⟨[], split.trans (List.append_nil _).symm⟩
    · exact ⟨[[]], split⟩
  unfold Straight at straight ⊢
  rw [split] at straight
  rw [steps_child proper, isAbsolute_child proper,
    walks.strays_entry rfl proper found solid straight, decide_eq_false_iff_not, Nat.not_le]

end TestImpact.Files.FileTree
