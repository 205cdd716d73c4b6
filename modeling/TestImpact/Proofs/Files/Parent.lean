import TestImpact.Proofs.Files.Descent
import TestImpact.Proofs.Text.Pieces

namespace TestImpact.Files

namespace Path

open parent

/-- A path without the slashes and single dots at its end. The root keeps its slash. -/
def trimmed (p : Path) : Path :=
  ⟨if trimEnd p.bytes = [] ∧ p.isAbsolute then [slash] else trimEnd p.bytes⟩

theorem trimFront_suffix (bytes : List UInt8) : trimFront bytes <:+ bytes := by
  fun_induction trimFront bytes with
  | case1 => exact List.suffix_rfl
  | case2 => exact List.nil_suffix
  | case3 b other => exact List.suffix_rfl
  | case4 c rest ih => exact ih.trans (List.suffix_cons ..)
  | case5 b c rest other dotted ih => exact ih.trans (List.suffix_cons ..)
  | case6 b c rest other kept => exact List.suffix_rfl

theorem trimEnd_prefix (bytes : List UInt8) : trimEnd bytes <+: bytes := by
  have front := List.reverse_prefix.mpr (trimFront_suffix bytes.reverse)
  rwa [List.reverse_reverse] at front

theorem names_append (front : List UInt8) {name : Name} (whole : slash ∉ name)
    (named : name ≠ []) :
    (⟨front ++ slash :: name⟩ : Path).names = (⟨front⟩ : Path).names ++ [name] := by
  simp [names, List.splitOn_append_cons_self, List.splitOn_eq_singleton whole, named]

theorem names_append_slash (front : List UInt8) :
    (⟨front ++ [slash]⟩ : Path).names = (⟨front⟩ : Path).names := by
  simp [names, List.splitOn_append_cons_self]

theorem names_trimFront (bytes : List UInt8) : ∃ dots, (∀ name ∈ dots, name = [dot]) ∧
    (⟨bytes.reverse⟩ : Path).names = (⟨(trimFront bytes).reverse⟩ : Path).names ++ dots := by
  -- The bytes stand in reverse: what is trimmed in front are the last names of the path.
  fun_induction trimFront bytes with
  | case1 => exact ⟨[], by simp⟩
  | case2 => exact ⟨[], by simp; decide⟩
  | case3 b other => exact ⟨[], by simp⟩
  | case4 c rest ih =>
    obtain ⟨dots, idle, same⟩ := ih
    exact ⟨dots, idle, by rw [List.reverse_cons, names_append_slash, same]⟩
  | case5 b c rest other dotted ih =>
    obtain ⟨dots, idle, same⟩ := ih
    obtain ⟨rfl, rfl⟩ := dotted
    refine ⟨dots ++ [[dot]], by simpa [or_imp, forall_and] using idle, ?_⟩
    have split : (dot :: slash :: rest).reverse = rest.reverse ++ slash :: [dot] := by simp
    rw [List.reverse_cons, names_append_slash] at same
    rw [split, names_append _ (by decide) (by simp), same, List.append_assoc]
  | case6 b c rest other kept => exact ⟨[], by simp⟩

theorem trimFront_ne_nil {bytes : List UInt8} (given : bytes ≠ [])
    (relative : bytes.getLast? ≠ some slash) : trimFront bytes ≠ [] := by
  fun_induction trimFront bytes with
  | case1 => exact given
  | case2 => simp at relative
  | case3 b other => exact given
  | case4 c rest ih => exact ih (by simp) (by simpa using relative)
  | case5 b c rest other dotted ih => exact ih (by simp) (by simpa using relative)
  | case6 b c rest other kept => exact given

theorem trimmed_of_ne_nil {p : Path} (named : trimEnd p.bytes ≠ []) :
    p.trimmed = ⟨trimEnd p.bytes⟩ := by
  simp [trimmed, named]

theorem trimmed_of_nil {p : Path} (given : p.bytes ≠ []) (root : trimEnd p.bytes = []) :
    p.isAbsolute = true ∧ p.trimmed = ⟨[slash]⟩ := by
  have absolute : p.isAbsolute = true := by
    refine decide_eq_true (Decidable.byContradiction fun relative => ?_)
    have given' : p.bytes.reverse ≠ [] := by simpa using given
    refine trimFront_ne_nil given' ?_ (List.reverse_eq_nil_iff.mp root)
    rwa [List.getLast?_reverse]
  exact ⟨absolute, by simp [trimmed, root, absolute]⟩

theorem isAbsolute_trimmed {p : Path} (given : p.bytes ≠ []) :
    p.trimmed.isAbsolute = p.isAbsolute := by
  by_cases root : trimEnd p.bytes = []
  · obtain ⟨absolute, same⟩ := trimmed_of_nil given root
    rw [absolute, same]
    rfl
  · obtain ⟨rest, split⟩ := trimEnd_prefix p.bytes
    have first : p.bytes.head? = (trimEnd p.bytes).head? := by
      cases front : trimEnd p.bytes with
      | nil => exact absurd front root
      | cons b bytes => rw [← split, front]; rfl
    rw [trimmed_of_ne_nil root, isAbsolute, isAbsolute, first]

theorem names_trimmed {p : Path} (given : p.bytes ≠ []) :
    ∃ dots, (∀ name ∈ dots, name = [dot]) ∧ p.names = p.trimmed.names ++ dots := by
  obtain ⟨dots, idle, same⟩ := names_trimFront p.bytes.reverse
  rw [List.reverse_reverse] at same
  refine ⟨dots, idle, same.trans ?_⟩
  change (⟨trimEnd p.bytes⟩ : Path).names ++ dots = _
  by_cases root : trimEnd p.bytes = []
  · rw [(trimmed_of_nil given root).2, root]
    rfl
  · rw [trimmed_of_ne_nil root]

theorem trimEnd_append_slash (front : List UInt8) : trimEnd (front ++ [slash]) = trimEnd front := by
  unfold trimEnd
  cases last : front.reverse <;> simp [last, trimFront]

theorem trimEnd_append_name (front : List UInt8) {name : Name} (proper : Proper name) :
    trimEnd (front ++ slash :: name) = front ++ slash :: name := by
  have kept : trimFront (name.reverse ++ slash :: front.reverse) =
      name.reverse ++ slash :: front.reverse := by
    -- Trimming stops at a byte that is neither a slash nor a dot, and at a dot that no slash is in
    -- front of: two bytes decide.
    cases back : name.reverse with
    | nil => exact absurd (List.reverse_eq_nil_iff.mp back) proper.named
    | cons b before =>
      have other (c : UInt8) (member : c ∈ b :: before) : c ≠ slash := by
        rintro rfl
        exact proper.whole (List.mem_reverse.mp (back ▸ member))
      have last := other b List.mem_cons_self
      cases before with
      | nil =>
        have named : name = [b] := by rw [← List.reverse_reverse name, back]; rfl
        have dotless : b ≠ dot := fun same => proper.single (same ▸ named)
        simp [trimFront, last, dotless]
      | cons c before =>
        have next := other c (by simp)
        simp [trimFront, last, next]
  unfold trimEnd
  rw [List.reverse_append, List.reverse_cons, List.append_assoc, List.singleton_append, kept]
  simp

theorem child_split {p : Path} (name : Name) (given : p.bytes ≠ []) :
    ∃ front, p.child name = ⟨front ++ slash :: name⟩ ∧ trimEnd front = trimEnd p.bytes := by
  unfold child
  by_cases slashed : p.bytes.getLast? = some slash
  · obtain ⟨front, split⟩ := List.getLast?_eq_some_iff.mp slashed
    exact ⟨front, by simp [split], by rw [split, trimEnd_append_slash]⟩
  · exact ⟨p.bytes, by simp [given, slashed], rfl⟩

theorem parent_child {p : Path} {name : Name} (given : p.bytes ≠ []) (proper : Proper name) :
    (p.child name).parent = some p.trimmed := by
  have absolute := isAbsolute_child (p := p) proper
  obtain ⟨front, split, same⟩ := child_split name given
  have before := Text.before_last front proper.whole
  rw [split] at absolute ⊢
  unfold parent
  simp only [trimEnd_append_name front proper, before, trimEnd_append_slash, same, absolute]
  simp [trimmed]

theorem fileName_child {p : Path} {name : Name} (given : p.bytes ≠ []) (proper : Proper name) :
    (p.child name).fileName = some name := by
  obtain ⟨front, split, -⟩ := child_split name given
  have last : (p.child name).parts.getLast? = some name := by
    rw [split, parts, splitOn_append_name front proper, List.filter_append]
    simp [proper.named, proper.single]
  simp [fileName, last, proper.double]

theorem fileName_child_of_proper (p : Path) {name : Name} (proper : Proper name) :
    (p.child name).fileName = some name := by
  by_cases given : p.bytes = []
  · have alone : (p.child name).parts = [name] := by
      simp [child, given, parts, List.splitOn_eq_singleton proper.whole, proper.named,
        proper.single]
    simp [fileName, alone, proper.double]
  · exact fileName_child given proper

theorem child_injective {p : Path} {name name' : Name} (same : p.child name = p.child name') :
    name = name' := by
  unfold child at same
  split at same <;> simpa using same

theorem extensionOf_append {front extension : Name} (named : front ≠ [])
    (last : dot ∉ extension) : extensionOf (front ++ dot :: extension) = some extension := by
  have behind := Text.behind_last front last
  have short : 0 < front.length := List.length_pos_iff.mpr named
  simp only [extensionOf, behind, List.length_append, List.length_cons]
  rw [if_pos (by omega)]

end Path

namespace FileTree

variable {t : FileTree} {d : Location} {p : Path}

theorem checkPath_ok_iff : checkPath p = .ok () ↔
    0 ∉ p.bytes ∧ p.bytes ≠ [] ∧ p.bytes.length < pathLimit := by
  unfold checkPath
  by_cases nul : 0 ∈ p.bytes
  · simp [nul]
  by_cases given : p.bytes = []
  · simp [given]
  by_cases long : pathLimit ≤ p.bytes.length
  · simp [nul, given, long]
  · simp [nul, given, long, Nat.lt_of_not_le long]

theorem checkPath_trimmed (sane : checkPath p = .ok ()) : checkPath p.trimmed = .ok () := by
  obtain ⟨nul, given, short⟩ := checkPath_ok_iff.mp sane
  by_cases root : Path.parent.trimEnd p.bytes = []
  · rw [(Path.trimmed_of_nil given root).2]
    rfl
  · have front := Path.trimEnd_prefix p.bytes
    rw [Path.trimmed_of_ne_nil root]
    exact checkPath_ok_iff.mpr ⟨fun inside => nul (front.subset inside), root,
      Nat.lt_of_le_of_lt front.length_le short⟩

theorem walks_append_dots_iff {links : Nat} {place : Location} {names dots : List Name}
    (idle : ∀ name ∈ dots, name = [dot]) (directory : t.node? d = some .directory) :
    Walks t .use links place (names ++ dots) (.found d) ↔
      Walks t .use links place names (.found d) := by
  induction dots generalizing names with
  | nil => rw [List.append_nil]
  | cons name dots ih =>
    rw [List.append_cons, ih fun other member => idle other (List.mem_cons_of_mem _ member),
      walks_append_idle_iff (.inr (idle name List.mem_cons_self)), and_iff_left directory]

theorem resolve_trimmed (resolved : t.resolve p = .ok d) (directory : t.node? d = some .directory) :
    t.resolve p.trimmed = .ok d := by
  obtain ⟨sane, walks⟩ := (resolve_directory_iff directory).mp resolved
  have given := (checkPath_ok_iff.mp sane).2.1
  obtain ⟨dots, idle, split⟩ := Path.names_trimmed given
  rw [split, walks_append_dots_iff idle directory] at walks
  rw [resolve_directory_iff directory, Path.isAbsolute_trimmed given]
  exact ⟨checkPath_trimmed sane, walks⟩

end FileTree

end TestImpact.Files
