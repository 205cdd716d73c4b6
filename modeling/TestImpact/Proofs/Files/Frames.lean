import TestImpact.Proofs.Files.Writing

namespace TestImpact.Files.FileTree

/-- All that stood in the first tree stands in the second, links and devices stood there before, and
    no file but those at some spots is new or has another content. -/
structure AltersOnly (spots : Location → Prop) (t t' : FileTree) : Prop where
  home : t'.home = t.home
  solid : ∀ place n, t.node? place = some n → (∀ content, n ≠ .file content) →
    t'.node? place = some n
  file : ∀ place content, t.node? place = some (.file content) →
    ∃ content', t'.node? place = some (.file content')
  old : ∀ place n, t'.node? place = some n → n ≠ .directory → (∀ content, n ≠ .file content) →
    t.node? place = some n
  same : ∀ place, ¬ spots place → ∀ content,
    t'.node? place = some (.file content) ↔ t.node? place = some (.file content)

section Frames

variable {t t' t'' : FileTree} {spots more : Location → Prop} {path : Path}
  {d place spot : Location} {content : List UInt8}

theorem AltersOnly.refl (spots : Location → Prop) (t : FileTree) : AltersOnly spots t t where
  home := rfl
  solid _ _ there _ := there
  file _ content there := ⟨content, there⟩
  old _ _ there _ _ := there
  same _ _ _ := Iff.rfl

theorem AltersOnly.trans (first : AltersOnly spots t t') (second : AltersOnly spots t' t'') :
    AltersOnly spots t t'' where
  home := second.home.trans first.home
  solid place n there other := second.solid place n (first.solid place n there other) other
  file place content there := by
    obtain ⟨content', there'⟩ := first.file place content there
    exact second.file place content' there'
  old place n there apart other :=
    first.old place n (second.old place n there apart other) apart other
  same place elsewhere content :=
    (second.same place elsewhere content).trans (first.same place elsewhere content)

theorem AltersOnly.mono (alters : AltersOnly spots t t')
    (wider : ∀ place, spots place → more place) : AltersOnly more t t' :=
  { alters with same := fun place elsewhere => alters.same place (elsewhere ∘ wider place) }

theorem makeDirectory_ok (made : t.makeDirectory path = .ok t') :
    ∃ parent name, t.node? (parent ++ [name]) = none ∧
      t' = t.put (parent ++ [name]) .directory := by
  unfold makeDirectory at made
  obtain ⟨_, -, made⟩ := bind_eq_ok.mp made
  cases last : ((path.bytes.splitOn slash).filter (· ≠ [])).getLast? with
  | none => simp only [last, reduceCtorEq] at made
  | some name =>
    simp only [last] at made
    obtain ⟨place, -, made⟩ := bind_eq_ok.mp made
    cases place with
    | vacant spot => cases made
    | found parent =>
      by_cases dots : name = [dot] ∨ name = [dot, dot]
      · simp [dots] at made
      by_cases long : nameLimit < name.length
      · simp [dots, long] at made
      by_cases taken : (t.node? (parent ++ [name])).isSome
      · simp [dots, long, taken] at made
      simp only [if_neg dots, if_neg long, if_neg taken, pure_eq_ok, Except.ok.injEq] at made
      exact ⟨parent, name, by simpa using taken, made.symm⟩

theorem altersOnly_makeDirectory (made : t.makeDirectory path = .ok t') :
    AltersOnly (fun _ => False) t t' := by
  obtain ⟨parent, name, vacant, rfl⟩ := makeDirectory_ok made
  have below : parent ++ [name] ≠ [] := by simp
  have put := node?_put (t := t) (n := .directory) below
  have kept {place : Location} {n : Node} (there : t.node? place = some n) :
      (t.put (parent ++ [name]) .directory).node? place = some n := by
    rw [put, if_neg, there]
    rintro rfl
    cases vacant.symm.trans there
  have old {place : Location} {n : Node} (other : n ≠ .directory)
      (there : (t.put (parent ++ [name]) .directory).node? place = some n) :
      t.node? place = some n := by
    rw [put] at there
    split at there
    · cases there
      exact absurd rfl other
    · exact there
  exact
    { home := rfl
      solid := fun _ _ there _ => kept there
      file := fun _ content there => ⟨content, kept there⟩
      old := fun _ _ there apart _ => old apart there
      same := fun _ _ _ => ⟨old nofun, kept⟩ }

theorem altersOnly_makeDirectories (turns : Nat) (t : FileTree) (p : Path) :
    AltersOnly (fun _ => False) t (t.makeDirectories p turns).1 := by
  induction turns generalizing t p with
  | zero => exact .refl _ t
  | succ turns ih =>
    unfold makeDirectories
    by_cases none : p.bytes = []
    · rw [if_pos none]
      exact .refl _ t
    rw [if_neg none]
    cases made : t.makeDirectory p with
    | ok t' => exact altersOnly_makeDirectory made
    | error cause =>
      by_cases missing : cause = .notFound
      · simp only [missing, if_true]
        cases above : p.parent with
        | none => exact .refl _ t
        | some parent =>
          have first := ih t parent
          rcases begun : t.makeDirectories parent turns with ⟨t', cause | _⟩ <;> rw [begun] at first
          · simpa only [begun] using first
          · cases made' : t'.makeDirectory p with
            | ok t'' => simpa only [begun, made'] using first.trans (altersOnly_makeDirectory made')
            | error cause => simpa only [begun, made'] using first
      · simp only [missing, if_false]
        exact .refl _ t

theorem altersOnly_ensureDirectory (t : FileTree) (directory : Path) :
    AltersOnly (fun _ => False) t (t.ensureDirectory directory).1 :=
  altersOnly_makeDirectories _ t directory

theorem Writable.altersOnly (writable : t.Writable spot) (content : List UInt8) :
    AltersOnly (· = spot) t (t.put spot (.file content)) := by
  have put := node?_put (t := t) (n := .file content) writable.below
  exact
    { home := rfl
      solid := fun _ _ there other => writable.kept content there other
      file := fun place content' there => by
        rw [put]
        split
        · exact ⟨content, rfl⟩
        · exact ⟨content', there⟩
      old := fun place n there _ other => by
        rw [put] at there
        split at there
        · cases there
          exact absurd rfl (other content)
        · exact there
      same := fun place elsewhere content' => by rw [put, if_neg elsewhere] }

theorem altersOnly_write (written : t.write path content = .ok t') :
    ∃ spot, AltersOnly (· = spot) t t' := by
  obtain ⟨-, spot, -, -, ⟨-, rfl⟩ | ⟨writable, rfl⟩⟩ := write_cases written
  · exact ⟨spot, .refl _ t'⟩
  · exact ⟨spot, writable.altersOnly content⟩

theorem Walks.altered {links : Nat} {names : List Name} {p : Place} (alters : AltersOnly spots t t')
    (walks : Walks t .use links place names p) (ends : p = .found d) :
    Walks t' .use links place names p := by
  induction walks with
  | arrive => exact .arrive
  | vacant => cases ends
  | stay inside idle on ih => exact .stay (alters.solid _ _ inside nofun) idle (ih ends)
  | back inside on ih => exact .back (alters.solid _ _ inside nofun) (ih ends)
  | follow inside looksUp link on ih =>
    exact .follow (alters.solid _ _ inside nofun) looksUp (alters.solid _ _ link nofun) (ih ends)
  | @enter links place name rest n p inside looksUp found solid on ih =>
    have inside' := alters.solid _ _ inside nofun
    by_cases file : ∃ content, n = .file content
    · obtain ⟨content, rfl⟩ := file
      obtain ⟨content', found'⟩ := alters.file _ content found
      exact .enter inside' looksUp found' nofun (ih ends)
    · have found' := alters.solid _ _ found fun content same => file ⟨content, same⟩
      exact .enter inside' looksUp found' solid (ih ends)

end Frames

end TestImpact.Files.FileTree
