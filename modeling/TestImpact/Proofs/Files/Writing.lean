import TestImpact.Proofs.Files.Walking

namespace TestImpact.Files.FileTree

variable {t : FileTree} {spot : Location}

theorem node?_put {n : Node} (below : spot ≠ []) (other : Location) :
    (t.put spot n).node? other = if other = spot then some n else t.node? other := by
  unfold node? put
  by_cases root : other = []
  · simp [root, Ne.symm below]
  · simp only [root, if_false]
    exact Table.get?_insert t.nodes spot other n

def Writable (t : FileTree) (spot : Location) : Prop :=
  t.node? spot = none ∨ ∃ content, t.node? spot = some (.file content)

theorem Writable.below (writable : t.Writable spot) : spot ≠ [] := by
  rintro rfl
  rcases writable with vacant | ⟨content, file⟩
  · cases vacant
  · cases file

theorem Writable.kept (writable : t.Writable spot) (content : List UInt8) {place : Location}
    {n : Node} (there : t.node? place = some n) (other : ∀ content, n ≠ .file content) :
    (t.put spot (.file content)).node? place = some n := by
  rw [node?_put writable.below, if_neg, there]
  rintro rfl
  rcases writable with vacant | ⟨content, file⟩
  · cases there.symm.trans vacant
  · cases there.symm.trans file
    exact other content rfl

theorem LooksUp.use {purpose : Purpose} {name : Name} {rest rest' : List Name}
    (looksUp : LooksUp purpose name rest) : LooksUp .use name rest' :=
  ⟨looksUp.proper, fun making => (nomatch making.1), looksUp.short⟩

theorem Walks.put {purpose : Purpose} {links : Nat} {place : Location} {names : List Name}
    {p : Place} (walks : Walks t purpose links place names p)
    (ends : p = .vacant spot ∨ p = .found spot) (writable : t.Writable spot)
    (content : List UInt8) :
    Walks (t.put spot (.file content)) .use links place names (.found spot) := by
  induction walks with
  | arrive =>
    rcases ends with ends | ends <;> cases ends
    exact .arrive
  | stay inside idle on ih => exact .stay (writable.kept content inside nofun) idle (ih ends)
  | back inside on ih => exact .back (writable.kept content inside nofun) (ih ends)
  | vacant inside looksUp absent =>
    rcases ends with ends | ends <;> cases ends
    refine .enter (writable.kept content inside nofun) looksUp.use (n := .file content) ?_ nofun
      .arrive
    rw [node?_put writable.below, if_pos rfl]
  | follow inside looksUp link on ih =>
    exact .follow (writable.kept content inside nofun) looksUp.use
      (writable.kept content link nofun) (ih ends)
  | @enter links place name rest n p inside looksUp found solid on ih =>
    have inside' := writable.kept content inside nofun
    have found' := node?_put (t := t) (n := .file content) writable.below (place ++ [name])
    by_cases here : place ++ [name] = spot
    · rw [if_pos here] at found'
      exact .enter inside' looksUp.use found' nofun (ih ends)
    · rw [if_neg here, found] at found'
      exact .enter inside' looksUp.use found' solid (ih ends)

theorem locate_ok_iff {purpose : Purpose} {path : Path} {p : Place} :
    t.locate purpose path = .ok p ↔ checkPath path = .ok () ∧
      Walks t purpose linkLimit (if path.isAbsolute then [] else t.home) (steps path) p := by
  unfold locate
  rw [bind_eq_ok]
  constructor
  · rintro ⟨_, sane, walked⟩
    exact ⟨sane, walks_of_walk walked⟩
  · rintro ⟨sane, walks⟩
    exact ⟨(), sane, walks.walk⟩

theorem Walks.absent {purpose : Purpose} {links : Nat} {place : Location} {names : List Name}
    {p : Place} (walks : Walks t purpose links place names p) (ends : p = .vacant spot) :
    t.node? spot = none := by
  induction walks with
  | arrive => cases ends
  | vacant inside looksUp absent =>
    cases ends
    exact absent
  | stay inside idle on ih => exact ih ends
  | back inside on ih => exact ih ends
  | follow inside looksUp link on ih => exact ih ends
  | enter inside looksUp found solid on ih => exact ih ends

theorem write_cases {t' : FileTree} {path : Path} {content : List UInt8}
    (written : t.write path content = .ok t') :
    ∃ p spot, t.locate .create path = .ok p ∧ (p = .vacant spot ∨ p = .found spot) ∧
      (t.node? spot = some .sink ∧ t' = t ∨
        t.Writable spot ∧ t' = t.put spot (.file content)) := by
  unfold FileTree.write at written
  obtain ⟨p, located, written⟩ := bind_eq_ok.mp written
  obtain ⟨-, walks⟩ := locate_ok_iff.mp located
  cases p with
  | vacant spot =>
    cases written
    exact ⟨_, spot, located, .inl rfl, .inr ⟨.inl (walks.absent rfl), rfl⟩⟩
  | found spot =>
    refine ⟨_, spot, located, .inr rfl, ?_⟩
    cases there : t.node? spot with
    | none => simp [there] at written
    | some n =>
      cases n with
      | sink =>
        simp only [there, pure_eq_ok, Except.ok.injEq] at written
        exact .inl ⟨rfl, written.symm⟩
      | file old =>
        simp only [there, pure_eq_ok, Except.ok.injEq] at written
        exact .inr ⟨.inr ⟨old, there⟩, written.symm⟩
      | directory | link | barred => simp [there] at written

theorem read_of_write {t' : FileTree} {path : Path} {content : List UInt8}
    (written : t.write path content = .ok t')
    (kept : ∀ place, t.locate .create path = .ok (.found place) → t.node? place ≠ some .sink) :
    t'.read path = .ok content := by
  obtain ⟨p, spot, located, ends, ⟨device, -⟩ | ⟨writable, rfl⟩⟩ := write_cases written <;>
    obtain ⟨sane, walks⟩ := locate_ok_iff.mp located
  · rcases ends with rfl | rfl
    · cases device.symm.trans (walks.absent rfl)
    · exact absurd device (kept spot located)
  · have again : (t.put spot (.file content)).locate .use path = .ok (.found spot) :=
      locate_ok_iff.mpr ⟨sane, walks.put ends writable content⟩
    have node := node?_put (t := t) (n := .file content) writable.below spot
    rw [if_pos rfl] at node
    simp [FileTree.read, lookUp, resolve, again, node]

end TestImpact.Files.FileTree
