import TestImpact.Files.Tree
import TestImpact.Proofs.Except

namespace TestImpact.Files.FileTree

variable {t : FileTree} {purpose : Purpose}

structure LooksUp (purpose : Purpose) (name : Name) (rest : List Name) : Prop where
  proper : name ≠ [] ∧ name ≠ [dot] ∧ name ≠ [dot, dot]
  open_ended : ¬ (purpose = .create ∧ endsInSlash rest)
  short : name.length ≤ nameLimit

/-- The walks that get to an end, with at most so many links on their way. -/
inductive Walks (t : FileTree) (purpose : Purpose) : Nat → Location → List Name → Place → Prop
  | arrive {links : Nat} {place : Location} : Walks t purpose links place [] (.found place)
  | stay {links : Nat} {place : Location} {name : Name} {rest : List Name} {p : Place}
      (inside : t.node? place = some .directory) (idle : name = [] ∨ name = [dot])
      (on : Walks t purpose links place rest p) : Walks t purpose links place (name :: rest) p
  | back {links : Nat} {place : Location} {rest : List Name} {p : Place}
      (inside : t.node? place = some .directory)
      (on : Walks t purpose links place.dropLast rest p) :
      Walks t purpose links place ([dot, dot] :: rest) p
  | vacant {links : Nat} {place : Location} {name : Name}
      (inside : t.node? place = some .directory) (looksUp : LooksUp purpose name [])
      (absent : t.node? (place ++ [name]) = none) :
      Walks t purpose links place [name] (.vacant (place ++ [name]))
  | follow {links : Nat} {place : Location} {name : Name} {rest : List Name} {target : Path}
      {p : Place} (inside : t.node? place = some .directory) (looksUp : LooksUp purpose name rest)
      (link : t.node? (place ++ [name]) = some (.link target))
      (on : Walks t purpose links (if target.isAbsolute then [] else place)
        (steps target ++ rest) p) :
      Walks t purpose (links + 1) place (name :: rest) p
  | enter {links : Nat} {place : Location} {name : Name} {rest : List Name} {n : Node} {p : Place}
      (inside : t.node? place = some .directory) (looksUp : LooksUp purpose name rest)
      (found : t.node? (place ++ [name]) = some n) (solid : ∀ target, n ≠ .link target)
      (on : Walks t purpose links (place ++ [name]) rest p) :
      Walks t purpose links place (name :: rest) p

theorem walks_of_walkNames {links : Nat} {p : Place}
    {follow : Location → List Name → Except Cause Place}
    (followed : ∀ place names, follow place names = .ok p →
      ∃ fewer, links = fewer + 1 ∧ Walks t purpose fewer place names p)
    {names : List Name} {place : Location}
    (walked : walkNames t purpose follow place names = .ok p) :
    Walks t purpose links place names p := by
  induction names generalizing place with
  | nil =>
    cases walked
    exact .arrive
  | cons name rest ih =>
    unfold walkNames at walked
    by_cases inside : t.node? place = some .directory
    case neg => simp [inside] at walked
    rw [if_neg (not_not_intro inside)] at walked
    by_cases idle : name = [] ∨ name = [dot]
    · rw [if_pos idle] at walked
      exact .stay inside idle (ih walked)
    rw [if_neg idle] at walked
    by_cases back : name = [dot, dot]
    · rw [if_pos back] at walked
      subst back
      exact .back inside (ih walked)
    rw [if_neg back] at walked
    by_cases slashed : purpose = .create ∧ endsInSlash rest
    · simp [slashed] at walked
    rw [if_neg slashed] at walked
    by_cases long : nameLimit < name.length
    · simp [long] at walked
    rw [if_neg long] at walked
    have looksUp : LooksUp purpose name rest :=
      ⟨⟨fun same => idle (.inl same), fun same => idle (.inr same), back⟩, slashed,
        Nat.le_of_not_lt long⟩
    cases found : t.node? (place ++ [name]) with
    | none =>
      simp only [found] at walked
      by_cases last : rest = []
      · subst last
        cases walked
        exact .vacant inside looksUp found
      · simp [last] at walked
    | some n =>
      cases n with
      | link target =>
        simp only [found] at walked
        obtain ⟨fewer, rfl, on⟩ := followed _ _ walked
        exact .follow inside looksUp found on
      | directory | file | sink | barred =>
        simp only [found] at walked
        exact .enter inside looksUp found (by simp) (ih walked)

def pursue (t : FileTree) (purpose : Purpose) : Nat → Location → List Name → Except Cause Place
  | 0 => fun _ _ => .error .tooManyLinks
  | links + 1 => t.walk purpose links

theorem walk_eq (links : Nat) :
    t.walk purpose links = t.walkNames purpose (t.pursue purpose links) := by
  cases links <;> rfl

theorem walks_of_walk {links : Nat} {place : Location} {names : List Name} {p : Place}
    (walked : t.walk purpose links place names = .ok p) : Walks t purpose links place names p := by
  induction links generalizing place names with
  | zero =>
    rw [walk_eq] at walked
    exact walks_of_walkNames (fun _ _ followed => by cases followed) walked
  | succ links ih =>
    rw [walk_eq] at walked
    exact walks_of_walkNames (fun _ _ followed => ⟨links, rfl, ih followed⟩) walked

theorem Walks.walk {links : Nat} {place : Location} {names : List Name} {p : Place}
    (walks : Walks t purpose links place names p) : t.walk purpose links place names = .ok p := by
  induction walks with
  | arrive =>
    rw [walk_eq]
    rfl
  | stay inside idle on ih =>
    rw [walk_eq] at ih ⊢
    simp [walkNames, inside, idle, ih]
  | back inside on ih =>
    rw [walk_eq] at ih ⊢
    simp [walkNames, inside, ih]
  | vacant inside looksUp absent =>
    obtain ⟨⟨named, single, double⟩, open_ended, short⟩ := looksUp
    rw [walk_eq]
    simp [walkNames, inside, named, single, double, absent, Nat.not_lt_of_le short, endsInSlash]
  | follow inside looksUp link on ih =>
    obtain ⟨⟨named, single, double⟩, open_ended, short⟩ := looksUp
    rw [walk_eq]
    simp [walkNames, inside, named, single, double, link, Nat.not_lt_of_le short, open_ended,
      pursue, ih]
  | @enter links place name rest n p inside looksUp found solid on ih =>
    obtain ⟨⟨named, single, double⟩, open_ended, short⟩ := looksUp
    rw [walk_eq] at ih ⊢
    cases n with
    | link target => exact absurd rfl (solid target)
    | directory | file | sink | barred =>
      simp [walkNames, inside, named, single, double, found, Nat.not_lt_of_le short, open_ended, ih]

end TestImpact.Files.FileTree
