import Mathlib.Data.List.Induction
import TestImpact.Proofs.Files.Opening

namespace TestImpact.Files

structure Storable (name : Name) : Prop extends Proper name where
  short : name.length ≤ FileTree.nameLimit
  nul : 0 ∉ name

instance (name : Name) : Decidable (Storable name) :=
  decidable_of_iff (Proper name ∧ name.length ≤ FileTree.nameLimit ∧ 0 ∉ name)
    ⟨fun ⟨proper, short, nul⟩ => ⟨proper, short, nul⟩,
      fun ⟨proper, short, nul⟩ => ⟨proper, short, nul⟩⟩

namespace FileTree

variable {t : FileTree} {place : Location} {name : Name} {p : Path}

/-- A tree as a file system holds it: every entry has a name of its own and lies in a directory. -/
structure Stored (t : FileTree) : Prop where
  named : ∀ place ∈ t.nodes.keys, ∀ name ∈ place, Storable name
  inside : ∀ place ∈ t.nodes.keys, t.node? place.dropLast = some .directory

instance (t : FileTree) : Decidable t.Stored :=
  decidable_of_iff ((∀ place ∈ t.nodes.keys, ∀ name ∈ place, Storable name) ∧
      ∀ place ∈ t.nodes.keys, t.node? place.dropLast = some .directory)
    ⟨fun ⟨named, inside⟩ => ⟨named, inside⟩, fun ⟨named, inside⟩ => ⟨named, inside⟩⟩

def Linkless (t : FileTree) : Prop := ∀ place target, t.node? place ≠ some (.link target)

theorem mem_keys_of_node? (below : place ≠ []) (there : (t.node? place).isSome) :
    place ∈ t.nodes.keys := by
  obtain ⟨n, bound⟩ := Option.isSome_iff_exists.mp there
  exact Table.mem_keys_iff.mpr ⟨n, by simpa [node?, below] using bound⟩

instance (t : FileTree) : Decidable t.Linkless :=
  decidable_of_iff (∀ place ∈ t.nodes.keys, (t.node? place matches some (.link _)) = false) <| by
    constructor
    · intro each place target link
      have below : place ≠ [] := by
        rintro rfl
        cases link
      have none := each place (mem_keys_of_node? below (by rw [link]; rfl))
      simp [link] at none
    · intro linkless place _
      split
      · exact absurd ‹_› (linkless place _)
      · rfl

theorem Stored.storable (stored : t.Stored) (there : (t.node? (place ++ [name])).isSome) :
    Storable name := stored.named _ (mem_keys_of_node? (by simp) there) name (by simp)

theorem Stored.above (stored : t.Stored) (there : (t.node? (place ++ [name])).isSome) :
    t.node? place = some .directory := by
  simpa using stored.inside _ (mem_keys_of_node? (by simp) there)

theorem Stored.directory (stored : t.Stored) {rest : Location} (below : rest ≠ [])
    (there : (t.node? (place ++ rest)).isSome) : t.node? place = some .directory := by
  induction rest using List.reverseRecOn with
  | nil => exact absurd rfl below
  | append_singleton front last ih =>
    rw [← List.append_assoc] at there
    have above := stored.above there
    by_cases direct : front = []
    · simpa [direct] using above
    · exact ih direct (by rw [above]; rfl)

theorem Stored.isSome_above (stored : t.Stored) {rest : Location}
    (there : (t.node? (place ++ rest)).isSome) : (t.node? place).isSome := by
  by_cases here : rest = []
  · simpa [here] using there
  · rw [stored.directory here there]
    rfl

theorem resolve_child (stored : t.Stored) (linkless : t.Linkless) {d : Location}
    (resolved : t.resolve p = .ok d) (there : (t.node? (d ++ [name])).isSome) :
    t.resolve (p.child name) = if (p.child name).bytes.length < pathLimit then .ok (d ++ [name])
      else .error .nameTooLong := by
  obtain ⟨proper, short, nul⟩ := stored.storable there
  have directory := stored.above there
  obtain ⟨sane, walks⟩ := (resolve_directory_iff directory).mp resolved
  obtain ⟨clean, given, -⟩ := checkPath_ok_iff.mp sane
  have clean' : 0 ∉ (p.child name).bytes := by
    have other : (0 : UInt8) ≠ slash := by decide
    unfold Path.child
    split <;> simp [clean, nul, other]
  have given' : (p.child name).bytes ≠ [] := by
    unfold Path.child
    split <;> simp [given]
  split
  · rename_i fits
    obtain ⟨n, found⟩ := Option.isSome_iff_exists.mp there
    have last (links : Nat) : Walks t .use links d [name] (.found (d ++ [name])) :=
      .enter directory ⟨⟨proper.named, proper.single, proper.double⟩, nofun, short⟩ found
        (fun target link => linkless _ target (link ▸ found)) .arrive
    have located := (Opens.mk walks directory).locate
      ⟨proper, short, checkPath_ok_iff.mpr ⟨clean', given', fits⟩⟩ .use last
    simp [resolve, located]
  · rename_i long
    simp [resolve, locate, checkPath, clean', given', Nat.le_of_not_lt long]

theorem precedes_iff {a b : Name} : precedes a b = true ↔ a = b ∨ a < b := by
  induction a generalizing b with
  | nil => cases b <;> simp [precedes]
  | cons x a ih =>
    cases b with
    | nil => simp [precedes]
    | cons y b =>
      by_cases same : x = y
      · simp [precedes, same, ih]
      · simp [precedes, same, List.cons_lt_cons_iff]

theorem precedes_total (a b : Name) : (precedes a b || precedes b a) = true := by
  induction a generalizing b with
  | nil => simp [precedes]
  | cons x a ih =>
    cases b with
    | nil => simp [precedes]
    | cons y b =>
      by_cases same : x = y
      · simpa [precedes, same] using ih b
      · simpa [precedes, same, Ne.symm same] using UInt8.lt_or_lt_of_ne same

theorem pairwise_names (t : FileTree) (place : Location) :
    (t.names place).Pairwise (· < ·) := by
  have trans (a b c : Name) (first : precedes a b = true) (second : precedes b c = true) :
      precedes a c = true := by
    rw [precedes_iff] at first second ⊢
    rcases first with rfl | less
    · exact second
    · rcases second with rfl | less'
      · exact .inr less
      · exact .inr (List.lt_trans less less')
  have sorted : (t.names place).Pairwise fun a b => precedes a b = true :=
    List.pairwise_mergeSort trans precedes_total _
  refine (sorted.and (t.nodup_names place)).imp fun both => ?_
  exact (precedes_iff.mp both.1).resolve_left both.2

end FileTree

end TestImpact.Files
