import TestImpact.Proofs.Files.Frames

namespace TestImpact.Files

def Path.names (p : Path) : List Name := (p.bytes.splitOn slash).filter (· ≠ [])

/-- A name that stands for an entry of its own, not for its directory or the one above. -/
structure Proper (name : Name) : Prop where
  whole : slash ∉ name
  named : name ≠ []
  single : name ≠ [dot]
  double : name ≠ [dot, dot]

theorem steps_of_last {bytes : List UInt8} {name : Name} {before : List (List UInt8)}
    (proper : Proper name) (split : bytes.splitOn slash = before ++ [name]) :
    FileTree.steps ⟨bytes⟩ = before.filter (· ≠ []) ++ [name] := by
  simp [FileTree.steps, split, proper.named]

theorem splitOn_append_name (front : List UInt8) {name : Name} (proper : Proper name) :
    (front ++ slash :: name).splitOn slash = front.splitOn slash ++ [name] := by
  rw [List.splitOn_append_cons_self, List.splitOn_eq_singleton proper.whole]

theorem steps_child {p : Path} {name : Name} (proper : Proper name) :
    FileTree.steps (p.child name) = p.names ++ [name] := by
  obtain ⟨bytes⟩ := p
  unfold Path.child
  by_cases none : bytes = []
  · subst none
    have split : name.splitOn slash = [] ++ [name] := List.splitOn_eq_singleton proper.whole
    simpa [Path.names] using steps_of_last proper split
  · by_cases slashed : bytes.getLast? = some slash
    · obtain ⟨front, rfl⟩ := List.getLast?_eq_some_iff.mp slashed
      have split := splitOn_append_name front proper
      have same : (front ++ [slash]).splitOn slash = front.splitOn slash ++ [[]] := by
        rw [List.splitOn_append_cons_self, List.splitOn_nil]
      simpa [slashed, Path.names, same] using steps_of_last proper split
    · simpa [none, slashed, Path.names] using
        steps_of_last proper (splitOn_append_name bytes proper)

theorem isAbsolute_child {p : Path} {name : Name} (proper : Proper name) :
    (p.child name).isAbsolute = p.isAbsolute := by
  obtain ⟨bytes⟩ := p
  unfold Path.child Path.isAbsolute
  cases bytes with
  | nil =>
    cases name with
    | nil => exact absurd rfl proper.named
    | cons b rest =>
      have other : b ≠ slash := fun same => proper.whole (by simp [same])
      simp [other]
  | cons b rest =>
    by_cases slashed : (b :: rest).getLast? = some slash <;> simp [slashed]

namespace FileTree

variable {t : FileTree}

def entry (t : FileTree) (directory : Path) (name : Name) : Except Cause Location := do
  match ← t.walk .use linkLimit (if directory.isAbsolute then [] else t.home)
    (directory.names ++ [[]]) with
  | .found place => return place ++ [name]
  | .vacant _ => .error .notFound

/-- A walk for a file ends at the entry of the last name, unless that is a link. -/
theorem Walks.entry {links : Nat} {place : Location} {all names : List Name} {name : Name}
    {p : Place} {spot : Location} (walks : Walks t .create links place all p) (proper : Proper name)
    (last : all = names ++ [name]) (ends : p = .found spot) :
    ∃ d, Walks t .use links place (names ++ [[]]) (.found d) ∧
      (spot = d ++ [name] ∨ ∃ target, t.node? (d ++ [name]) = some (.link target)) := by
  induction walks generalizing names with
  | arrive => simp at last
  | vacant => cases ends
  | stay inside idle on ih =>
    cases names with
    | nil =>
      cases last
      rcases idle with rfl | rfl
      · exact absurd rfl proper.named
      · exact absurd rfl proper.single
    | cons first names =>
      cases last
      obtain ⟨d, walks, entry⟩ := ih rfl ends
      exact ⟨d, .stay inside idle walks, entry⟩
  | back inside on ih =>
    cases names with
    | nil =>
      cases last
      exact absurd rfl proper.double
    | cons first names =>
      cases last
      obtain ⟨d, walks, entry⟩ := ih rfl ends
      exact ⟨d, .back inside walks, entry⟩
  | follow inside looksUp link on ih =>
    cases names with
    | nil =>
      cases last
      exact ⟨_, .stay inside (.inl rfl) .arrive, .inr ⟨_, link⟩⟩
    | cons first names =>
      cases last
      obtain ⟨d, walks, entry⟩ := ih (List.append_assoc ..).symm ends
      refine ⟨d, .follow inside looksUp.use link ?_, entry⟩
      rwa [List.append_assoc] at walks
  | enter inside looksUp found solid on ih =>
    cases names with
    | nil =>
      cases last
      cases ends
      cases on
      exact ⟨_, .stay inside (.inl rfl) .arrive, .inl rfl⟩
    | cons first names =>
      cases last
      obtain ⟨d, walks, entry⟩ := ih rfl ends
      exact ⟨d, .enter inside looksUp.use found solid walks, entry⟩

/-- In the directory, once it is there, the name is no link from the start. -/
def Unlinked (t : FileTree) (directory : Path) (name : Name) : Prop :=
  ∀ place, (t.ensureDirectory directory).1.entry directory name = .ok place →
    ∀ target, t.node? place ≠ some (.link target)

/-- The name is a device from the start, which keeps nothing of what is written to it. -/
def Swallows (t : FileTree) (directory : Path) (name : Name) : Prop :=
  ∃ place, (t.ensureDirectory directory).1.entry directory name = .ok place ∧
    t.node? place = some .sink

theorem entry_of_locate {directory : Path} {name : Name} {spot : Location} (proper : Proper name)
    (located : t.locate .create (directory.child name) = .ok (.found spot)) :
    ∃ place, t.entry directory name = .ok place ∧
      (spot = place ∨ ∃ target, t.node? place = some (.link target)) := by
  obtain ⟨-, walks⟩ := locate_ok_iff.mp located
  rw [steps_child proper, isAbsolute_child proper] at walks
  obtain ⟨d, way, entry⟩ := walks.entry proper rfl rfl
  exact ⟨d ++ [name], by simp [FileTree.entry, way.walk], entry⟩

/-- What is written under a proper name in a directory is read again, unless it went to a device. -/
theorem Unlinked.read {t' t'' : FileTree} {directory : Path} {name : Name} {content : List UInt8}
    (unlinked : t.Unlinked directory name) (proper : Proper name)
    (made : t.ensureDirectory directory = (t', .ok ()))
    (written : t'.write (directory.child name) content = .ok t'') :
    t''.read (directory.child name) = .ok content ∨ t.Swallows directory name := by
  by_cases swallows : t.Swallows directory name
  · exact .inr swallows
  refine .inl (read_of_write written fun spot located there => ?_)
  obtain ⟨place, here, entry⟩ := entry_of_locate proper located
  -- Nothing but directories was made, so a link or a device there is one from the start.
  have only := altersOnly_ensureDirectory t directory
  rw [made] at only
  have start : (t.ensureDirectory directory).1.entry directory name = .ok place := by rwa [made]
  rcases entry with rfl | ⟨target, link⟩
  · exact swallows ⟨_, start, only.old _ _ there nofun nofun⟩
  · exact unlinked _ start target (only.old _ _ link nofun nofun)

def EntryIs (t : FileTree) (directory : Path) (name : Name) (n : Node) : Prop :=
  ∃ place, t.entry directory name = .ok place ∧ t.node? place = some n

theorem read_of_write_child {t' : FileTree} {directory : Path} {name : Name} {content : List UInt8}
    (proper : Proper name) (written : t.write (directory.child name) content = .ok t')
    (unlinked : ∀ target, ¬ t'.EntryIs directory name (.link target)) :
    t'.read (directory.child name) = .ok content ∨ t'.EntryIs directory name .sink := by
  by_cases device : ∃ spot, t.locate .create (directory.child name) = .ok (.found spot) ∧
      t.node? spot = some .sink
  · obtain ⟨spot, located, there⟩ := device
    have same : t' = t := by
      simp only [FileTree.write, located, ok_bind, there, pure_eq_ok, Except.ok.injEq] at written
      exact written.symm
    subst same
    obtain ⟨place, here, rfl | ⟨target, link⟩⟩ := entry_of_locate proper located
    · exact .inr ⟨spot, here, there⟩
    · exact absurd ⟨place, here, link⟩ (unlinked target)
  · exact .inl (read_of_write written fun spot located there => device ⟨spot, located, there⟩)

theorem node?_of_lookUp {path : Path} {n : Node} (found : t.lookUp path = .ok n) :
    ∃ place, t.resolve path = .ok place ∧ t.node? place = some n := by
  unfold FileTree.lookUp at found
  obtain ⟨place, resolved, there⟩ := bind_eq_ok.mp found
  cases node : t.node? place with
  | none => simp [node] at there
  | some n' =>
    simp only [node, pure_eq_ok, Except.ok.injEq] at there
    subst there
    exact ⟨place, resolved, node⟩

theorem lookUp_of_read {path : Path} {content : List UInt8} (read : t.read path = .ok content)
    (holds : content ≠ []) : t.lookUp path = .ok (.file content) := by
  unfold FileTree.read at read
  obtain ⟨n, found, read⟩ := bind_eq_ok.mp read
  cases n with
  | file content' =>
    cases read
    exact found
  | sink =>
    cases read
    exact absurd rfl holds
  | directory | link | barred => cases read

end FileTree

end TestImpact.Files
