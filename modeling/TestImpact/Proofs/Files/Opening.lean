import TestImpact.Proofs.Files.Parent

namespace TestImpact.Files.FileTree

variable {t : FileTree} {directory : Path} {d spot : Location} {name : Name}
  {content : List UInt8}

structure Opens (t : FileTree) (directory : Path) (d : Location) : Prop where
  walks : Walks t .use linkLimit (if directory.isAbsolute then [] else t.home) directory.names
    (.found d)
  inside : t.node? d = some .directory

theorem Opens.unique {d' : Location} (opens : t.Opens directory d) (opens' : t.Opens directory d') :
    d = d' := by
  have same := opens.walks.walk.symm.trans opens'.walks.walk
  simpa using same

theorem endsInSlash_append (front : List Name) (named : name ≠ []) :
    endsInSlash (front ++ [name]) = false := by
  simp [endsInSlash, named]

theorem Walks.concat {purpose : Purpose} {links : Nat} {place : Location} {names : List Name}
    {p q : Place} (first : Walks t .use links place names q) (ends : q = .found d)
    (named : name ≠ []) (last : ∀ links, Walks t purpose links d [name] p) :
    Walks t purpose links place (names ++ [name]) p := by
  have more {other : Name} {rest : List Name} (looksUp : LooksUp .use other rest) :
      LooksUp purpose other (rest ++ [name]) :=
    ⟨looksUp.proper, fun making => by simp [endsInSlash_append rest named] at making,
      looksUp.short⟩
  induction first with
  | arrive =>
    cases ends
    exact last _
  | vacant => cases ends
  | stay inside idle on ih => exact .stay inside idle (ih ends)
  | back inside on ih => exact .back inside (ih ends)
  | follow inside looksUp link on ih =>
    exact .follow inside (more looksUp) link (by simpa using ih ends)
  | enter inside looksUp found solid on ih =>
    exact .enter inside (more looksUp) found solid (ih ends)

theorem Opens.altered {t' : FileTree} {spots : Location → Prop} (opens : t.Opens directory d)
    (alters : AltersOnly spots t t') :
    t'.Opens directory d where
  walks := by
    rw [alters.home]
    exact opens.walks.altered alters rfl
  inside := alters.solid _ _ opens.inside nofun

theorem Opens.put (opens : t.Opens directory d) (writable : t.Writable spot)
    (content : List UInt8) : (t.put spot (.file content)).Opens directory d :=
  opens.altered (writable.altersOnly content)

structure Fits (directory : Path) (name : Name) : Prop where
  proper : Proper name
  short : name.length ≤ nameLimit
  sane : checkPath (directory.child name) = .ok ()

instance (directory : Path) (name : Name) : Decidable (Fits directory name) :=
  decidable_of_iff
    (Proper name ∧ name.length ≤ nameLimit ∧ checkPath (directory.child name) = .ok ())
    ⟨fun ⟨proper, short, sane⟩ => ⟨proper, short, sane⟩,
      fun ⟨proper, short, sane⟩ => ⟨proper, short, sane⟩⟩

theorem Fits.looksUp {purpose : Purpose} (fits : Fits directory name) :
    LooksUp purpose name [] :=
  ⟨⟨fits.proper.named, fits.proper.single, fits.proper.double⟩, by simp [endsInSlash], fits.short⟩

theorem Fits.checkPath (fits : Fits directory name) (given : directory.bytes ≠ []) :
    checkPath directory = .ok () := by
  obtain ⟨nul, -, short⟩ := checkPath_ok_iff.mp fits.sane
  have front : directory.bytes <+: (directory.child name).bytes := by
    unfold Path.child
    split <;> exact List.prefix_append _ _
  exact checkPath_ok_iff.mpr ⟨fun member => nul (front.subset member), given,
    Nat.lt_of_le_of_lt front.length_le short⟩

theorem Opens.locate {p : Place} (opens : t.Opens directory d)
    (fits : Fits directory name) (purpose : Purpose)
    (last : ∀ links, Walks t purpose links d [name] p) :
    t.locate purpose (directory.child name) = .ok p := by
  refine locate_ok_iff.mpr ⟨fits.sane, ?_⟩
  rw [steps_child fits.proper, isAbsolute_child fits.proper]
  exact opens.walks.concat rfl fits.proper.named last

theorem opens_of_locate {p : Place} (proper : Proper name)
    (located : t.locate .create (directory.child name) = .ok p) :
    ∃ d, t.Opens directory d ∧ Fits directory name ∧
      ((∃ target, t.node? (d ++ [name]) = some (.link target)) ∨ p = .vacant (d ++ [name]) ∨
        p = .found (d ++ [name])) := by
  obtain ⟨sane, walks⟩ := locate_ok_iff.mp located
  rw [steps_child proper, isAbsolute_child proper] at walks
  obtain ⟨d, front, inside⟩ := walks.upTo rfl
  obtain ⟨fewer, -, last⟩ := front.onward rfl walks
  refine ⟨d, ⟨front, inside⟩, ?_⟩
  cases last with
  | stay _ idle => exact absurd idle (not_or.mpr ⟨proper.named, proper.single⟩)
  | back => exact absurd rfl proper.double
  | vacant _ looksUp => exact ⟨⟨proper, looksUp.short, sane⟩, .inr (.inl rfl)⟩
  | follow _ looksUp link => exact ⟨⟨proper, looksUp.short, sane⟩, .inl ⟨_, link⟩⟩
  | enter _ looksUp _ _ on =>
    cases on
    exact ⟨⟨proper, looksUp.short, sane⟩, .inr (.inr rfl)⟩

theorem write_child {t' : FileTree} (proper : Proper name)
    (written : t.write (directory.child name) content = .ok t') :
    ∃ d, t.Opens directory d ∧ Fits directory name ∧
      ((∃ target, t.node? (d ++ [name]) = some (.link target)) ∨
        t.node? (d ++ [name]) = some .sink ∧ t' = t ∨
        t.Writable (d ++ [name]) ∧ t' = t.put (d ++ [name]) (.file content)) := by
  obtain ⟨p, spot, located, ends, wrote⟩ := write_cases written
  obtain ⟨d, opens, fits, entry⟩ := opens_of_locate proper located
  refine ⟨d, opens, fits, entry.imp_right fun here => ?_⟩
  have same : spot = d ++ [name] := by
    rcases here with rfl | rfl <;> rcases ends with ends | ends <;> cases ends <;> rfl
  exact same ▸ wrote

theorem Opens.enters {purpose : Purpose} (opens : t.Opens directory d)
    (fits : Fits directory name) (there : t.node? (d ++ [name]) = some (.file content))
    (links : Nat) : Walks t purpose links d [name] (.found (d ++ [name])) := by
  have solid (target : Path) : Node.file content ≠ .link target := by simp
  exact .enter opens.inside fits.looksUp there solid .arrive

theorem Opens.write (opens : t.Opens directory d) (fits : Fits directory name)
    (writable : t.Writable (d ++ [name])) (content : List UInt8) :
    t.write (directory.child name) content = .ok (t.put (d ++ [name]) (.file content)) := by
  rcases writable with absent | ⟨old, there⟩
  · have located := opens.locate fits .create fun _ =>
      .vacant opens.inside fits.looksUp absent
    simp [FileTree.write, located]
  · have located := opens.locate fits .create (opens.enters fits there)
    simp [FileTree.write, located, there]

theorem Opens.lookUp (opens : t.Opens directory d) (fits : Fits directory name)
    (there : t.node? (d ++ [name]) = some (.file content)) :
    t.lookUp (directory.child name) = .ok (.file content) := by
  have located := opens.locate fits .use (opens.enters fits there)
  simp [FileTree.lookUp, resolve, located, there]

theorem Walks.there {links : Nat} {place : Location} {q : Place}
    (walks : Walks t .use links place [name] q) (ends : q = .found d) (named : name ≠ []) :
    name = [dot] ∨ name = [dot, dot] ∨
      name.length ≤ nameLimit ∧ (t.node? (place ++ [name])).isSome := by
  cases walks with
  | stay _ idle => exact .inl (idle.resolve_left named)
  | back => exact .inr (.inl rfl)
  | vacant => cases ends
  | follow _ looksUp link => exact .inr (.inr ⟨looksUp.short, by rw [link]; rfl⟩)
  | enter _ looksUp found => exact .inr (.inr ⟨looksUp.short, by rw [found]; rfl⟩)

theorem Opens.makeDirectory (opens : t.Opens directory d) (sane : checkPath directory = .ok ()) :
    t.makeDirectory directory = .error .alreadyExists := by
  obtain ⟨walks, inside⟩ := opens
  unfold FileTree.makeDirectory
  rw [sane, ok_bind]
  show (match directory.names.getLast? with | none => _ | some name => _) = _
  cases last : directory.names.getLast? with
  | none => rfl
  | some name =>
    obtain ⟨front, names⟩ := List.getLast?_eq_some_iff.mp last
    have named : name ≠ [] := by
      have member : name ∈ directory.names := by simp [names]
      simpa [Path.names] using (List.mem_filter.mp member).2
    rw [names] at walks
    obtain ⟨parent, above, inside'⟩ := walks.upTo rfl
    have parents : t.walk .use linkLimit (if directory.isAbsolute then [] else t.home)
        (directory.names.dropLast ++ [[]]) = .ok (.found parent) := by
      rw [names, List.dropLast_concat]
      exact ((walks_append_idle_iff (.inl rfl)).mpr ⟨above, inside'⟩).walk
    obtain ⟨fewer, -, step⟩ := above.onward rfl walks
    unfold Path.names at parents
    simp only [parents, ok_bind]
    rcases step.there rfl named with dotted | dotted | ⟨short, there⟩
    · simp [dotted]
    · simp [dotted]
    · simp [Nat.not_lt_of_le short, there]

theorem Opens.ensured (opens : t.Opens directory d) (fits : Fits directory name) :
    t.ensureDirectory directory = (t, .ok ()) := by
  unfold ensureDirectory makeDirectories
  by_cases given : directory.bytes = []
  · rw [if_pos given]
  · have sane := fits.checkPath given
    have resolved := (resolve_directory_iff opens.inside).mpr ⟨sane, opens.walks⟩
    rw [if_neg given, opens.makeDirectory sane]
    have other : Cause.alreadyExists ≠ .notFound := by decide
    simp [other, isDirectory, FileTree.lookUp, resolved, opens.inside]

def Holds (t : FileTree) (directory : Path) (name : Name) (content : List UInt8) : Prop :=
  ∃ d, t.Opens directory d ∧ t.node? (d ++ [name]) = some (.file content)

variable {names : Name → Prop}

/-- The directory is there or can be made, and under each of some names a file can be put in it. -/
def Ready (t : FileTree) (directory : Path) (names : Name → Prop) : Prop :=
  ∃ t' d, t.ensureDirectory directory = (t', .ok ()) ∧ t'.Opens directory d ∧
    ∀ name, names name → t'.Writable (d ++ [name])

theorem Opens.ready (opens : t.Opens directory d) (fits : Fits directory name)
    (writable : ∀ name, names name → t.Writable (d ++ [name])) : t.Ready directory names :=
  ⟨t, d, opens.ensured fits, opens, writable⟩

structure Spares (directory : Path) (names : Name → Prop) (t t' : FileTree) : Prop where
  ready : t.Ready directory names → t'.Ready directory names
  opens : ∀ d, t.Opens directory d → t'.Opens directory d
  nodes : ∀ d name, t.Opens directory d → names name →
    t'.node? (d ++ [name]) = t.node? (d ++ [name])

theorem Spares.refl (directory : Path) (names : Name → Prop) (t : FileTree) :
    Spares directory names t t := ⟨fun ready => ready, fun _ opens => opens, fun _ _ _ _ => rfl⟩

theorem Spares.trans {t' t'' : FileTree} (first : Spares directory names t t')
    (second : Spares directory names t' t'') : Spares directory names t t'' where
  ready ready := second.ready (first.ready ready)
  opens d opens := second.opens d (first.opens d opens)
  nodes d name opens member :=
    (second.nodes d name (first.opens d opens) member).trans (first.nodes d name opens member)

theorem Spares.holds {t' : FileTree} (spares : Spares directory names t t') (member : names name)
    (holds : t.Holds directory name content) : t'.Holds directory name content := by
  obtain ⟨d, opens, there⟩ := holds
  exact ⟨d, spares.opens d opens, (spares.nodes d name opens member).trans there⟩

theorem Spares.writable {t' : FileTree} (spares : Spares directory names t t')
    (opens : t.Opens directory d) (member : names name) (writable : t.Writable (d ++ [name])) :
    t'.Writable (d ++ [name]) := by
  unfold Writable
  rwa [spares.nodes d name opens member]

theorem Opens.written (opens : t.Opens directory d)
    (fits : ∀ name, names name → Fits directory name)
    (writable : ∀ name, names name → t.Writable (d ++ [name])) (member : names name)
    (content : List UInt8) :
    ∃ t', t.write (directory.child name) content = .ok t' ∧ t'.Ready directory names ∧
      t'.Holds directory name content ∧
      ∀ other held, names other → other ≠ name → t.Holds directory other held →
        t'.Holds directory other held := by
  have put := node?_put (t := t) (n := .file content) (writable name member).below
  have opens' := opens.put (writable name member) content
  refine ⟨_, opens.write (fits name member) (writable name member) content, ?_, ?_, ?_⟩
  · refine opens'.ready (fits name member) fun other member' => ?_
    by_cases same : other = name
    · exact .inr ⟨content, by rw [put, if_pos (by rw [same])]⟩
    · unfold Writable
      rw [put, if_neg (by simpa using same)]
      exact writable other member'
  · exact ⟨d, opens', by rw [put, if_pos rfl]⟩
  · rintro other held - apart ⟨d', opens'', there⟩
    cases opens.unique opens''
    exact ⟨d, opens', by rw [put, if_neg (by simpa using apart), there]⟩

end TestImpact.Files.FileTree
