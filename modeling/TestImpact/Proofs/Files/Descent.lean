import Mathlib.Data.List.Nodup
import TestImpact.Proofs.Files.Entries

namespace TestImpact.Files.FileTree

variable {t : FileTree} {purpose : Purpose} {links links' : Nat} {place spot : Location}
  {name : Name} {names rest : List Name} {p : Place}

theorem LooksUp.not_idle (looksUp : LooksUp purpose name rest) : ¬ (name = [] ∨ name = [dot]) :=
  fun idle => idle.elim looksUp.proper.1 looksUp.proper.2.1

theorem Walks.after_idle (walks : Walks t purpose links place (name :: rest) p)
    (idle : name = [] ∨ name = [dot]) : Walks t purpose links place rest p := by
  cases walks with
  | stay _ _ on => exact on
  | back => simp at idle
  | vacant _ looksUp | follow _ looksUp | enter _ looksUp => exact absurd idle looksUp.not_idle

theorem Walks.after_back (walks : Walks t purpose links place ([dot, dot] :: rest) p) :
    Walks t purpose links place.dropLast rest p := by
  cases walks with
  | stay _ idle => simp at idle
  | back _ on => exact on
  | vacant _ looksUp | follow _ looksUp | enter _ looksUp => exact absurd rfl looksUp.proper.2.2

theorem Walks.after_link {target : Path} {rest' : List Name}
    (walks : Walks t purpose links place (name :: rest) p) (looksUp : LooksUp .use name rest')
    (link : t.node? (place ++ [name]) = some (.link target)) :
    ∃ fewer, links = fewer + 1 ∧ Walks t purpose fewer (if target.isAbsolute then [] else place)
      (steps target ++ rest) p := by
  cases walks with
  | stay _ idle => exact absurd idle looksUp.not_idle
  | back => exact absurd rfl looksUp.proper.2.2
  | vacant _ _ absent => cases absent.symm.trans link
  | follow _ _ link' on =>
    cases link.symm.trans link'
    exact ⟨_, rfl, on⟩
  | enter _ _ found solid => exact absurd (Option.some.inj (found.symm.trans link)) (solid target)

theorem Walks.after_entry {n : Node} {rest' : List Name}
    (walks : Walks t purpose links place (name :: rest) p) (looksUp : LooksUp .use name rest')
    (found : t.node? (place ++ [name]) = some n) (solid : ∀ target, n ≠ .link target) :
    Walks t purpose links (place ++ [name]) rest p := by
  cases walks with
  | stay _ idle => exact absurd idle looksUp.not_idle
  | back => exact absurd rfl looksUp.proper.2.2
  | vacant _ _ absent => cases absent.symm.trans found
  | follow _ _ link => exact absurd (Option.some.inj (found.symm.trans link)) (solid _)
  | enter _ _ _ _ on => exact on

/-- A walk that passes a place goes on from there, with the links that are left. -/
theorem Walks.onward {q : Place} (first : Walks t .use links place names q)
    (ends : q = .found spot) (whole : Walks t purpose links' place (names ++ rest) p) :
    ∃ fewer ≤ links', Walks t purpose fewer spot rest p := by
  -- On the names that they share, the second walk cannot but take the steps of the first.
  induction first generalizing links' with
  | arrive =>
    cases ends
    exact ⟨links', Nat.le_refl _, whole⟩
  | vacant => cases ends
  | stay inside idle on ih => exact ih ends (whole.after_idle idle)
  | back inside on ih => exact ih ends whole.after_back
  | enter inside looksUp found solid on ih => exact ih ends (whole.after_entry looksUp found solid)
  | follow inside looksUp link on ih =>
    obtain ⟨left, rfl, next⟩ := whole.after_link looksUp link
    obtain ⟨fewer, bound, walks⟩ := ih ends (by simpa using next)
    exact ⟨fewer, Nat.le_succ_of_le bound, walks⟩

theorem Walks.mono (walks : Walks t purpose links place names p) (bound : links ≤ links') :
    Walks t purpose links' place names p := by
  induction walks generalizing links' with
  | arrive => exact .arrive
  | stay inside idle on ih => exact .stay inside idle (ih bound)
  | back inside on ih => exact .back inside (ih bound)
  | vacant inside looksUp absent => exact .vacant inside looksUp absent
  | enter inside looksUp found solid on ih => exact .enter inside looksUp found solid (ih bound)
  | follow inside looksUp link on ih =>
    obtain ⟨more, rfl⟩ := Nat.exists_eq_add_of_le' (Nat.le_trans (Nat.le_add_left 1 _) bound)
    exact .follow inside looksUp link (ih (Nat.le_of_succ_le_succ bound))

theorem Walks.upTo {all : List Name} (walks : Walks t purpose links place all p)
    (split : all = names ++ name :: rest) :
    ∃ d, Walks t .use links place names (.found d) ∧ t.node? d = some .directory := by
  -- A step is either the one at `name`, and the walk is where it has to be, or one of those before.
  induction walks generalizing names with
  | arrive => simp at split
  | stay inside idle on ih =>
    cases names with
    | nil => exact ⟨_, .arrive, inside⟩
    | cons first names =>
      cases split
      obtain ⟨d, walks, directory⟩ := ih rfl
      exact ⟨d, .stay inside idle walks, directory⟩
  | back inside on ih =>
    cases names with
    | nil => exact ⟨_, .arrive, inside⟩
    | cons first names =>
      cases split
      obtain ⟨d, walks, directory⟩ := ih rfl
      exact ⟨d, .back inside walks, directory⟩
  | vacant inside looksUp absent =>
    cases names with
    | nil => exact ⟨_, .arrive, inside⟩
    | cons first names => simp at split
  | follow inside looksUp link on ih =>
    cases names with
    | nil => exact ⟨_, .arrive, inside⟩
    | cons first names =>
      cases split
      obtain ⟨d, walks, directory⟩ := ih (List.append_assoc ..).symm
      exact ⟨d, .follow inside looksUp.use link walks, directory⟩
  | enter inside looksUp found solid on ih =>
    cases names with
    | nil => exact ⟨_, .arrive, inside⟩
    | cons first names =>
      cases split
      obtain ⟨d, walks, directory⟩ := ih rfl
      exact ⟨d, .enter inside looksUp.use found solid walks, directory⟩

/-- An idle step at the end of a walk asks for a directory, and that is all it does. -/
theorem walks_append_idle_iff (idle : name = [] ∨ name = [dot]) :
    Walks t .use links place (names ++ [name]) (.found spot) ↔
      Walks t .use links place names (.found spot) ∧ t.node? spot = some .directory := by
  constructor
  · intro walks
    obtain ⟨d, front, directory⟩ := walks.upTo rfl
    obtain ⟨fewer, -, last⟩ := front.onward rfl walks
    cases last.after_idle idle
    exact ⟨front, directory⟩
  · rintro ⟨walks, directory⟩
    -- Where a walk ends has to be a variable for the induction.
    generalize ends : Place.found spot = p at walks
    induction walks with
    | arrive =>
      cases ends
      exact .stay directory idle .arrive
    | vacant => cases ends
    | stay inside idle' on ih => exact .stay inside idle' (ih ends)
    | back inside on ih => exact .back inside (ih ends)
    | follow inside looksUp link on ih =>
      exact .follow inside looksUp.use link (by simpa using ih ends)
    | enter inside looksUp found solid on ih =>
      exact .enter inside looksUp.use found solid (ih ends)

theorem resolve_ok_iff {path : Path} :
    t.resolve path = .ok place ↔ checkPath path = .ok () ∧
      Walks t .use linkLimit (if path.isAbsolute then [] else t.home) (steps path)
        (.found place) := by
  unfold resolve
  rw [bind_eq_ok, ← locate_ok_iff]
  constructor
  · rintro ⟨_ | _, located, same⟩ <;> cases same
    exact located
  · exact fun located => ⟨_, located, rfl⟩

theorem steps_eq_or (path : Path) : steps path = path.names ∨ steps path = path.names ++ [[]] := by
  by_cases slashed : path.names ≠ [] ∧ (path.bytes.splitOn slash).getLast? = some []
  · exact .inr (if_pos slashed)
  · exact .inl (if_neg slashed)

/-- For a directory it does not matter whether a path ends in a slash. -/
theorem resolve_directory_iff {path : Path} (directory : t.node? place = some .directory) :
    t.resolve path = .ok place ↔ checkPath path = .ok () ∧
      Walks t .use linkLimit (if path.isAbsolute then [] else t.home) path.names
        (.found place) := by
  rw [resolve_ok_iff]
  refine and_congr_right fun _ => ?_
  rcases steps_eq_or path with split | split
  · rw [split]
  · rw [split, walks_append_idle_iff (.inl rfl), and_iff_left directory]

def LeadsTo (t : FileTree) (directory : Location) (name : Name) (place : Location) : Prop :=
  t.walk .use linkLimit directory [name] = .ok (.found place)

/-- What the path of an entry leads to depends on the directory alone, not on the way there. -/
theorem leadsTo_of_resolve_child {path : Path} {d : Location} (proper : Proper name)
    (above : t.resolve path = .ok d) (directory : t.node? d = some .directory)
    (below : t.resolve (path.child name) = .ok place) : t.LeadsTo d name place := by
  obtain ⟨-, front⟩ := (resolve_directory_iff directory).mp above
  obtain ⟨-, whole⟩ := resolve_ok_iff.mp below
  rw [steps_child proper, isAbsolute_child proper] at whole
  obtain ⟨fewer, bound, walks⟩ := front.onward rfl whole
  exact (walks.mono bound).walk

theorem eq_of_name {k : Location}
    (last : (if k.dropLast = place then k.getLast? else none) = some name) :
    k = place ++ [name] := by
  by_cases inside : k.dropLast = place
  · rw [if_pos inside] at last
    obtain ⟨front, rfl⟩ := List.getLast?_eq_some_iff.mp last
    rw [← inside, List.dropLast_concat]
  · rw [if_neg inside] at last
    cases last

theorem mem_names_iff : name ∈ t.names place ↔ (t.node? (place ++ [name])).isSome := by
  have bound : (t.node? (place ++ [name])).isSome ↔ place ++ [name] ∈ t.nodes.keys := by
    rw [Table.mem_keys_iff, Option.isSome_iff_exists]
    simp [node?]
  rw [bound, names, List.mem_mergeSort, List.mem_filterMap]
  constructor
  · rintro ⟨k, member, last⟩
    exact eq_of_name last ▸ member
  · exact fun member => ⟨_, member, by simp⟩

theorem nodup_names (t : FileTree) (place : Location) : (t.names place).Nodup := by
  refine (List.mergeSort_perm _ _).nodup_iff.mpr (t.nodes.distinct.filterMap ?_)
  intro k k' name last last'
  rw [eq_of_name last, eq_of_name last']

/-- No name in the tree stands for a directory itself or the one above, nor is it divided. -/
def WellNamed (t : FileTree) : Prop := ∀ place ∈ t.nodes.keys, ∀ name ∈ place, Proper name

instance (name : Name) : Decidable (Proper name) :=
  decidable_of_iff (slash ∉ name ∧ name ≠ [] ∧ name ≠ [dot] ∧ name ≠ [dot, dot])
    ⟨fun ⟨whole, named, single, double⟩ => ⟨whole, named, single, double⟩,
      fun ⟨whole, named, single, double⟩ => ⟨whole, named, single, double⟩⟩

instance (t : FileTree) : Decidable t.WellNamed := inferInstanceAs (Decidable (∀ _ ∈ _, ∀ _, _))

theorem WellNamed.proper (named : t.WellNamed) (member : name ∈ t.names place) : Proper name := by
  obtain ⟨n, bound⟩ := Option.isSome_iff_exists.mp (mem_names_iff.mp member)
  have known : t.nodes.get? (place ++ [name]) = some n := by simpa [node?] using bound
  exact named _ (Table.mem_keys_iff.mpr ⟨n, known⟩) name (by simp)

end TestImpact.Files.FileTree
