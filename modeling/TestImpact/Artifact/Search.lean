import TestImpact.Artifact.Kind
import TestImpact.Error
import TestImpact.Files.Tree
import TestImpact.Json.Reader

namespace TestImpact.Artifact

open Files

def unlisted (t : FileTree) (listed : List Location) : List Location :=
  ([] :: t.nodes.keys).filter fun k => t.node? k = some .directory ∧ k ∉ listed

theorem mem_locations {t : FileTree} {place : Location} {n : Node} (h : t.node? place = some n) :
    place ∈ [] :: t.nodes.keys := by
  by_cases root : place = []
  · simp [root]
  · have bound : t.nodes.get? place = some n := by simpa [FileTree.node?, root] using h
    exact List.mem_cons_of_mem _ (Table.mem_keys_iff.mpr ⟨n, bound⟩)

theorem length_unlisted_lt {t : FileTree} {listed : List Location} {place : Location}
    (isDirectory : t.node? place = some .directory) (isNew : place ∉ listed) :
    (unlisted t (place :: listed)).length < (unlisted t listed).length := by
  have split : unlisted t (place :: listed) = (unlisted t listed).filter (· ≠ place) := by
    simp only [unlisted, List.filter_filter]
    apply List.filter_congr
    intro k _
    by_cases same : k = place <;> simp [same]
  rw [split, List.length_filter_lt_length_iff_exists]
  refine ⟨place, ?_, by simp⟩
  simp only [unlisted, List.mem_filter, decide_eq_true_eq]
  exact ⟨mem_locations isDirectory, isDirectory, isNew⟩

structure Search where
  artifacts : List Path
  listed : List Location
  deriving DecidableEq, Repr

def Search.add (p : Path) (s : Search) : Search := { s with artifacts := p :: s.artifacts }

/-- The place of a path. A directory is known by its canonical path, so that it has to have one. -/
def placeOf (t : FileTree) (p : Path) : Except Cause Location := do
  let place ← t.resolve p
  if t.node? place = some .directory then t.checkCanonical p
  return place

/-- Goes through paths in order. A directory gives way to its entries, unless the same one was
    listed before by whatever path. -/
def search (t : FileTree) (kind : Kind) (listed : List Location) :
    List Path → Except Cause Search
  | [] => .ok ⟨[], listed⟩
  | p :: more =>
    match placeOf t p with
    | .error cause => .error (.located p.display cause)
    | .ok place =>
      if isDirectory : t.node? place = some .directory then
        if seen : place ∈ listed then search t kind listed more
        else
          have := length_unlisted_lt isDirectory seen
          match t.list place with
          | .error cause => .error (.located p.display cause)
          | .ok names => search t kind (place :: listed) (names.map p.child ++ more)
      else if kind.covers p then (search t kind listed more).map (Search.add p)
      else search t kind listed more
  termination_by paths => ((unlisted t listed).length, paths.length)
  decreasing_by
    · exact Prod.Lex.right _ (Nat.lt_succ_self _)
    · exact Prod.Lex.left _ _ this
    · exact Prod.Lex.right _ (Nat.lt_succ_self _)
    · exact Prod.Lex.right _ (Nat.lt_succ_self _)

/-- The files of a kind among the given paths and below them. Links are followed, and the entries of
    a directory come in the order of their names' bytes. -/
def find (t : FileTree) (kind : Kind) (paths : List Path) : Except Cause (List Path) :=
  (search t kind [] paths).map Search.artifacts

def readFile {α : Type} (t : FileTree) (r : Json.Reader α) (p : Path) : Except Error (List α) :=
  match t.read p with
  | .error cause => .error (.io (.located p.display cause))
  | .ok content =>
    (Json.read (Json.Reader.list r) (Text.Utf8.units content)).mapError (.malformedArtifact p)

def readFiles {α : Type} (t : FileTree) (r : Json.Reader α) : List Path → Except Error (List α)
  | [] => .ok []
  | p :: more => do
    let here ← readFile t r p
    let rest ← readFiles t r more
    return here ++ rest

def readAll {α : Type} (t : FileTree) (r : Json.Reader α) (kind : Kind) (paths : List Path) :
    Except Error (List α) := do
  let files ← (find t kind paths).mapError .io
  readFiles t r files

def anyRecord : Json.Reader Json.Value := Json.Tree.value (Json.deepestLevel - 1)

end TestImpact.Artifact
