import TestImpact.Web.Domain.Respelling

namespace TestImpact

def IsSmall (n : Nat) : Prop := n < 0x41 ∨ 0x5A < n

instance (n : Nat) : Decidable (IsSmall n) := inferInstanceAs (Decidable (_ ∨ _))

def AllSmall (points : List Nat) : Prop := ∀ n ∈ points, IsSmall n

theorem isSmall_of_le {n : Nat} (high : 0x5B ≤ n) : IsSmall n := .inr high

theorem isSmall_add {m : Nat} (high : 0x5B ≤ m) (n : Nat) : IsSmall (m + n) :=
  isSmall_of_le (Nat.le_trans high (Nat.le_add_right m n))

namespace Text

theorem composites_small :
    ∀ r ∈ composites.toList, IsSmall r.1 ∧ IsSmall r.2.1 ∧ IsSmall r.2.2 := by
  decide +kernel

theorem halves_small {n a b : Nat} (parts : halves? n = some (a, b)) : IsSmall a ∧ IsSmall b := by
  obtain ⟨r, found, same⟩ := Option.map_eq_some_iff.mp parts
  cases same
  have small := composites_small r (Array.mem_toList_iff.mpr (Array.mem_of_find?_eq_some found))
  exact ⟨small.1, small.2.1⟩

theorem composite_small {a b n : Nat} (whole : composite? a b = some n) : IsSmall n := by
  unfold composite? at whole
  split at whole
  · rename_i m syllable
    cases whole
    unfold syllable? at syllable
    repeat' split at syllable
    · rw [← Option.some.inj syllable]
      exact isSmall_add (by decide) _
    · rename_i parts
      rw [← Option.some.inj syllable]
      have least : firstSyllable ≤ a :=
        of_decide_eq_true (Bool.and_eq_true_iff.mp parts.1).1
      exact isSmall_add (Nat.le_trans (by decide) least) _
    · cases syllable
  · obtain ⟨r, found, rfl⟩ := Option.map_eq_some_iff.mp whole
    exact (composites_small r
      (Array.mem_toList_iff.mpr (Array.mem_of_find?_eq_some found))).2.2

theorem syllableParts_small (n : Nat) : AllSmall (syllableParts n) := by
  unfold syllableParts AllSmall
  simp only
  have front (i v : Nat) : AllSmall [firstInitial + i, firstVowel + v] :=
    List.forall_mem_cons.mpr ⟨isSmall_add (by decide) i,
      List.forall_mem_singleton.mpr (isSmall_add (by decide) v)⟩
  split
  · exact front _ _
  · exact List.forall_mem_append.mpr
      ⟨front _ _, List.forall_mem_singleton.mpr (isSmall_add (by decide) _)⟩

variable {points : List Nat}

theorem takeApartOnce_small (small : AllSmall points) : AllSmall (takeApartOnce points) := by
  intro m member
  obtain ⟨n, among, within⟩ := List.mem_flatMap.mp member
  split at within
  · exact syllableParts_small n m within
  · split at within
    · rename_i a b parts
      obtain ⟨first, second⟩ := halves_small parts
      exact List.forall_mem_cons.mpr ⟨first, List.forall_mem_singleton.mpr second⟩ m within
    · rw [List.mem_singleton.mp within]
      exact small n among

theorem mem_putMark {m n : Nat} {before : List Nat} (member : m ∈ putMark n before) :
    m = n ∨ m ∈ before := by
  induction before with
  | nil => exact .inl (List.mem_singleton.mp member)
  | cons k before ih =>
    rw [putMark] at member
    split at member
    · rcases List.mem_cons.mp member with rfl | rest
      · exact .inr List.mem_cons_self
      · exact (ih rest).imp_right (List.mem_cons_of_mem _)
    · exact List.mem_cons.mp member

theorem sortMarks_small (small : AllSmall points) : AllSmall (sortMarks points) := by
  have folded : ∀ before, AllSmall before →
      AllSmall (points.foldl (fun before n => putMark n before) before) := by
    induction points with
    | nil => exact fun _ done => done
    | cons n points ih =>
      obtain ⟨first, rest⟩ := List.forall_mem_cons.mp small
      intro before done
      refine ih rest _ fun m member => ?_
      rcases mem_putMark member with rfl | old
      · exact first
      · exact done m old
  intro m member
  exact folded [] nofun m (List.mem_reverse.mp member)

structure Assembly.Small (a : Assembly) : Prop where
  done : AllSmall a.done
  letter : AllSmall a.letter.toList
  marks : AllSmall a.marks

theorem Assembly.small_add (a : Assembly) (small : a.Small) {n : Nat} (next : IsSmall n) :
    (a.add n).Small := by
  obtain ⟨done, letter, marks⟩ := small
  unfold add
  simp only
  split
  · rename_i whole _
    obtain ⟨l, -, composite⟩ := Option.bind_eq_some_iff.mp whole
    exact ⟨done, List.forall_mem_singleton.mpr (composite_small composite), marks⟩
  · split
    · refine ⟨?_, List.forall_mem_singleton.mpr next, nofun⟩
      simp only [AllSmall, List.forall_mem_append]
      exact ⟨⟨marks, letter⟩, done⟩
    · exact ⟨done, letter, List.forall_mem_cons.mpr ⟨next, marks⟩⟩

theorem putTogether_small (small : AllSmall points) : AllSmall (putTogether points) := by
  have folded : ∀ a : Assembly, a.Small → (points.foldl Assembly.add a).Small := by
    induction points with
    | nil => exact fun _ done => done
    | cons n points ih =>
      obtain ⟨first, rest⟩ := List.forall_mem_cons.mp small
      exact fun a done => ih rest _ (a.small_add done first)
  obtain ⟨done, letter, marks⟩ := folded {} ⟨nofun, nofun, nofun⟩
  intro m member
  simp only [putTogether, Assembly.text, List.mem_reverse, List.mem_append] at member
  rcases member with (mark | own) | old
  · exact marks m mark
  · exact letter m own
  · exact done m old

theorem normalForm_small (small : AllSmall points) : AllSmall (normalForm points) :=
  putTogether_small (sortMarks_small (takeApartOnce_small (takeApartOnce_small small)))

end Text

namespace Web.Domain

theorem rows_small : ∀ r ∈ respeltRows.toList,
    0x5A < r.2.2.2 ∨ r.2.2.2 + (r.2.1 - r.1) < 0x41 := by
  decide +kernel

theorem letters_small : ∀ s ∈ respeltLetters.toList, AllSmall s.2.toList := by
  unfold AllSmall
  decide +kernel

theorem ideographs_small : ∀ s ∈ respeltIdeographs.toList, AllSmall s.2.toList := by
  unfold AllSmall
  decide +kernel

theorem signs_small : ∀ s ∈ respeltSigns.toList, ∀ points ∈ s.2.toList, AllSmall points := by
  unfold AllSmall
  decide +kernel

theorem mem_of_within? {α : Type} {stretches : Array (Nat × Array α)} {n : Nat} {a : α}
    (found : within? stretches n = some a) : ∃ s ∈ stretches.toList, a ∈ s.2.toList := by
  obtain ⟨s, member, own⟩ := Array.exists_of_findSome?_eq_some found
  split at own
  · exact ⟨s, Array.mem_toList_iff.mpr member, Array.mem_toList_iff.mpr (Array.mem_of_getElem? own)⟩
  · cases own

theorem inRows_small {n m : Nat} (found : inRows? n = some m) : IsSmall m := by
  obtain ⟨r, member, own⟩ := Array.exists_of_findSome?_eq_some found
  have high := rows_small r (Array.mem_toList_iff.mpr member)
  obtain ⟨first, last, step, target⟩ := r
  simp only at own high
  split at own
  · rename_i range
    cases own
    unfold IsSmall
    omega
  · cases own

theorem respelling_small {n : Nat} {points : List Nat} (found : respelling? n = some points) :
    AllSmall points := by
  unfold respelling? at found
  split at found
  · cases found
    nofun
  · split at found
    · rename_i m letter
      cases found
      refine List.forall_mem_singleton.mpr ?_
      cases row : inRows? n with
      | some k =>
        rw [row] at letter
        cases letter
        exact inRows_small row
      | none =>
        cases within : within? respeltLetters n with
        | some k =>
          rw [row, within] at letter
          cases letter
          obtain ⟨s, member, own⟩ := mem_of_within? within
          exact letters_small s member m own
        | none =>
          rw [row, within] at letter
          obtain ⟨s, member, own⟩ := mem_of_within? letter
          exact ideographs_small s member m own
    · obtain ⟨s, member, own⟩ := mem_of_within? found
      exact signs_small s member points own

theorem toLower_small {n : Nat} (ascii : n < 0x80) : IsSmall (Char.ofNat n).toLower.toNat := by
  have all : ∀ m : Fin 0x80, IsSmall (Char.ofNat m).toLower.toNat := by decide
  exact all ⟨n, ascii⟩

theorem spelling_small (n : Nat) : AllSmall (spelling n) := by
  unfold spelling
  split
  · rename_i ascii
    exact List.forall_mem_singleton.mpr (toLower_small ascii)
  · rename_i ascii
    cases found : respelling? n with
    | none => exact List.forall_mem_singleton.mpr (isSmall_of_le (by omega))
    | some points => exact respelling_small found

theorem spell_small (name : List Nat) : AllSmall (spell name) := by
  have points : AllSmall (name.flatMap spelling) := by
    intro m member
    obtain ⟨n, -, own⟩ := List.mem_flatMap.mp member
    exact spelling_small n m own
  unfold spell
  simp only
  split
  · exact points
  · exact Text.normalForm_small points

end Web.Domain

end TestImpact
