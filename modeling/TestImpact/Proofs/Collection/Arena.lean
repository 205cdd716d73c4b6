import TestImpact.Proofs.Collection.Operations

namespace TestImpact.Arena

variable {a : Arena}

theorem allocate_of_some {session : String} {s : Snapshot} (live : a.get? session = some s) :
    a.allocate session = (s, a) := by
  simp [allocate, live]

theorem allocate_of_none {session : String} (absent : a.get? session = none) :
    a.allocate session =
      (⟨session, a.issued + 1⟩,
        { issued := a.issued + 1, live := a.live.insert session ⟨session, a.issued + 1⟩ }) := by
  simp [allocate, absent]

theorem issued_allocate (a : Arena) (session : String) :
    a.issued ≤ (a.allocate session).2.issued ∧ (a.allocate session).2.issued ≤ a.issued + 1 := by
  cases live : a.get? session with
  | some s => simp [allocate_of_some live]
  | none => simp [allocate_of_none live]

theorem mem_keys_allocate {session id : String} :
    id ∈ (a.allocate session).2.live.keys ↔ id = session ∨ id ∈ a.live.keys := by
  cases live : a.get? session with
  | some s =>
    have known : session ∈ a.live.keys := Table.mem_keys_iff.mpr ⟨s, live⟩
    rw [allocate_of_some live]
    constructor
    · exact .inr
    · rintro (rfl | member)
      · exact known
      · exact member
  | none =>
    rw [allocate_of_none live]
    exact Table.mem_keys_insert

/-- Snapshots stand under their own sessions, with tokens that were issued and that differ. -/
structure Numbered (a : Arena) : Prop where
  own : ∀ id s, a.get? id = some s → s.session = id
  counted : ∀ id s, a.get? id = some s → 1 ≤ s.token ∧ s.token ≤ a.issued
  distinct : ∀ id id' s s', a.get? id = some s → a.get? id' = some s' → s.token = s'.token →
    id = id'

theorem numbered_empty : Numbered {} := ⟨nofun, nofun, nofun⟩

theorem Numbered.allocate (numbered : a.Numbered) (session : String) :
    (a.allocate session).2.Numbered := by
  cases live : a.get? session with
  | some s =>
    rw [allocate_of_some live]
    exact numbered
  | none =>
    have held (id : String) :
        (a.allocate session).2.get? id =
          if id = session then some ⟨session, a.issued + 1⟩ else a.get? id := by
      rw [get?_allocate, allocate_of_none live]
    have counted : (a.allocate session).2.issued = a.issued + 1 := by rw [allocate_of_none live]
    -- Every token from before is at most the count, so the next one is new.
    refine ⟨fun id s found => ?_, fun id s found => ?_, fun id id' s s' found found' same => ?_⟩
    · rw [held] at found
      split at found
      · cases found
        exact Eq.symm ‹id = session›
      · exact numbered.own id s found
    · rw [held] at found
      rw [counted]
      split at found
      · cases found
        exact ⟨Nat.le_add_left 1 a.issued, Nat.le_refl _⟩
      · have := numbered.counted id s found
        omega
    · rw [held] at found found'
      split at found <;> split at found'
      · exact Eq.trans ‹id = session› (Eq.symm ‹id' = session›)
      · cases found
        have := numbered.counted id' s' found'
        simp only at same
        omega
      · cases found'
        have := numbered.counted id s found
        simp only at same
        omega
      · exact numbered.distinct id id' s s' found found' same

theorem Numbered.release (numbered : a.Numbered) (session : String) :
    (a.release session).2.Numbered := by
  have kept (id : String) (s : Snapshot) (found : (a.release session).2.get? id = some s) :
      a.get? id = some s := by
    rw [get?_release] at found
    split at found
    · cases found
    · exact found
  exact
    ⟨fun id s found => numbered.own id s (kept id s found),
      fun id s found => numbered.counted id s (kept id s found),
      fun id id' s s' found found' =>
        numbered.distinct id id' s s' (kept id s found) (kept id' s' found')⟩

end TestImpact.Arena
