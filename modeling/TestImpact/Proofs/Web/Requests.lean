import TestImpact.Proofs.Text.Pieces
import TestImpact.Proofs.Web.Addresses
import TestImpact.Proofs.Web.Forms

namespace TestImpact.Web

abbrev IsPathChar (c : Char) : Prop := Percent.isKept Percent.path c = true

theorem isOpen_path : Percent.IsOpen Percent.path := by decide

theorem isPathChar_of_isAlphanum {c : Char} (plain : c.isAlphanum = true) : IsPathChar c :=
  Percent.isKept_of_isAlphanum isOpen_path plain

theorem isPathChar_of_mem_encode {set : Percent.EncodeSet} (wide : Percent.path ⊆ set)
    {cs : List Char} : ∀ c ∈ Percent.encode set cs, IsPathChar c :=
  Percent.isKept_of_mem_encode isOpen_path wide

namespace Url

/-- How paths come out of texts: none at all, that of the root, or segments that were read. -/
inductive ReadPath : List String → Prop
  | none : ReadPath []
  | root : ReadPath [""]
  | segments (k : SchemeKind) (cs : List Char) : ReadPath (readSegments k cs).segments

theorem readPath_path (k : SchemeKind) (u : Url) (cs : List Char) :
    ReadPath (readPath k u cs).path := by
  unfold readPath
  show ReadPath (if (splitParts cs).path.isEmpty = true then _ else _)
  repeat' split
  · exact .root
  · exact .none
  · exact .segments k _

theorem readAuthority_path {k : SchemeKind} {scheme : String} {cs : List Char} {u : Url}
    (read : readAuthority k scheme cs = .ok u) : ReadPath u.path := by
  unfold readAuthority at read
  simp only at read
  split at read
  · cases read
  · split at read
    · cases read
    · split at read
      all_goals
        obtain ⟨host, -, read⟩ := bind_eq_ok.mp read
        obtain ⟨port, -, read⟩ := bind_eq_ok.mp read
        split at read
        · cases read
        · cases read
          exact readPath_path k _ _

theorem readFileBehindSlashes_path {scheme : String} {cs : List Char} {u : Url}
    (read : readFileBehindSlashes scheme cs = .ok u) : ReadPath u.path := by
  unfold readFileBehindSlashes at read
  simp only at read
  split at read
  · cases read
    exact readPath_path .file _ _
  · split at read
    all_goals
      obtain ⟨host, -, read⟩ := bind_eq_ok.mp read
      split at read
      all_goals
        cases read
        exact .segments .file _

theorem readFile_path {scheme : String} {cs : List Char} {u : Url}
    (read : readFile scheme cs = .ok u) : ReadPath u.path := by
  unfold readFile at read
  simp only at read
  repeat' split at read
  · cases read
    exact readPath_path .file _ _
  · cases read
    exact readPath_path .file _ _
  · exact readFileBehindSlashes_path read
  · cases read
    exact readPath_path .file _ _

theorem readOther_path {scheme : String} {cs : List Char} {u : Url}
    (read : readOther scheme cs = .ok (.hierarchical u)) : ReadPath u.path := by
  unfold readOther at read
  split at read
  · exact readAuthority_path (eq_ok_of_map read)
  · rename_i rest _
    cases read
    exact readPath_path .other { scheme } ('/' :: rest)
  · cases read

theorem read_path {text : String} {u : Url} (read : Url.read text = .ok (.hierarchical u)) :
    ReadPath u.path := by
  unfold Url.read at read
  repeat' split at read
  · cases read
  · exact readAuthority_path (eq_ok_of_map read)
  · exact readFile_path (eq_ok_of_map read)
  · exact readOther_path read

def Escaped (path : List String) : Prop := ∀ s ∈ path, ∀ c ∈ s.toList, IsPathChar c

variable {path : List String} {trail : Trail}

theorem escaped_append {more : List String} (first : Escaped path) (second : Escaped more) :
    Escaped (path ++ more) := by
  intro s member
  exact (List.mem_append.mp member).elim (first s) (second s)

theorem escaped_singleton {s : String} (chars : ∀ c ∈ s.toList, IsPathChar c) : Escaped [s] := by
  intro s' member
  rwa [List.mem_singleton.mp member]

theorem escaped_empty : Escaped [""] := escaped_singleton nofun

theorem escaped_encode {set : Percent.EncodeSet} (wide : Percent.path ⊆ set) (cs : List Char) :
    Escaped [String.ofList (Percent.encode set cs)] :=
  escaped_singleton (by simpa using isPathChar_of_mem_encode wide)

theorem Escaped.subset {less : List String} (escaped : Escaped path) (subset : less ⊆ path) :
    Escaped less := fun s member => escaped s (subset member)

theorem escaped_tidyFilePath (escaped : Escaped path) : Escaped (tidyFilePath path) := by
  unfold tidyFilePath
  split
  · exact escaped_empty
  · exact escaped.subset (List.dropWhile_suffix _).subset

theorem escaped_stepBack (escaped : Escaped path) : Escaped (stepBack path) := by
  unfold stepBack
  split
  · exact escaped
  · exact escaped.subset (List.dropLast_subset path)

theorem escaped_drive {cs rest : List Char} {drive : String}
    (split : splitDrive cs = some (drive, rest)) : Escaped [drive] := by
  unfold splitDrive at split
  split at split
  · cases split
  · split at split
    · split at split
      · rename_i letter _ _ _ _ _ _ given
        simp only [Bool.and_eq_true] at given
        have plain : letter.isAlphanum = true := by simp [Char.isAlphanum, given.1.1]
        cases split
        refine escaped_singleton fun c member => ?_
        rw [String.toList_ofList, List.mem_pair] at member
        rcases member with rfl | rfl
        · exact isPathChar_of_isAlphanum plain
        · decide
      · cases split
    · cases split

theorem escaped_driveName {s : String} (escaped : Escaped [s]) : Escaped [driveName s] := by
  refine escaped_singleton fun c member => ?_
  rw [driveName, String.toList_ofList] at member
  rcases List.mem_append.mp member with member | member
  · exact escaped s List.mem_cons_self c (List.mem_of_mem_take member)
  · rw [List.mem_singleton.mp member]
    decide

theorem Trail.escaped_add (k : SchemeKind) (isLast : Bool) (written : List Char)
    (escaped : Escaped trail.segments) : Escaped (trail.add k isLast written).segments := by
  have leave : Escaped (if isLast then [""] else []) := by
    split
    · exact escaped_empty
    · exact nofun
  have encoded := escaped_encode (List.Subset.refl Percent.path)
  unfold Trail.add
  simp only
  split
  · rename_i drive rest found
    split at found
    · exact escaped_append (escaped_drive found) (encoded rest)
    · cases found
  · split
    · exact escaped_append (escaped_stepBack escaped) leave
    split
    · exact escaped_append escaped leave
    split
    · exact escaped_driveName (encoded _)
    · exact escaped_append escaped (encoded _)

theorem Trail.escaped_walk (k : SchemeKind) (written : List (List Char))
    (escaped : Escaped trail.segments) : Escaped (trail.walk k written).segments := by
  induction written generalizing trail with
  | nil => exact escaped
  | cons segment more ih => exact ih (escaped_add k more.isEmpty segment escaped)

theorem escaped_readSegments (k : SchemeKind) (cs : List Char) :
    Escaped (readSegments k cs).segments := by
  have start : Escaped ({} : Trail).segments := nofun
  have walked := Trail.escaped_walk k (cs.splitOnP (isSlash k)) start
  unfold readSegments
  simp only
  split
  · exact escaped_tidyFilePath walked
  · exact walked

theorem ReadPath.escaped (read : ReadPath path) : Escaped path := by
  cases read with
  | none => exact nofun
  | root => exact escaped_empty
  | segments k cs => exact escaped_readSegments k cs

theorem baseUrl_escaped {text : String} {base : Url} (based : baseUrl text = .ok base) :
    Escaped base.path := by
  obtain ⟨u, read, rfl⟩ := baseUrl_eq based
  unfold withFinalSlash
  repeat' split
  · exact (read_path read).escaped
  · exact escaped_readSegments .file _
  · exact escaped_append (read_path read).escaped escaped_empty

theorem escaped_addSegment {u : Url} (escaped : Escaped u.path) (text : String) :
    Escaped (u.addSegment text).path := by
  have wide : Percent.path ⊆ u.segmentSet := by
    unfold segmentSet
    split <;> decide
  have appended {s : String} (alone : Escaped [s]) : Escaped (appendSegment u.path s) := by
    unfold appendSegment
    split
    · exact alone
    · exact escaped_append escaped alone
  unfold addSegment
  split
  · exact escaped
  · have untidy (kept : List Char) : Escaped (if kept = ['.'] then appendSegment u.path ""
        else if kept = ['.', '.'] then stepBack u.path ++ [""]
        else appendSegment u.path (String.ofList (Percent.encode u.segmentSet kept))) := by
      repeat' split
      · exact appended escaped_empty
      · exact escaped_append (escaped_stepBack escaped) escaped_empty
      · exact appended (escaped_encode wide _)
    simp only
    split
    · exact escaped_tidyFilePath (untidy _)
    · exact untidy _

theorem escaped_extend {u : Url} (escaped : Escaped u.path) (texts : List String) :
    Escaped (u.extend texts).path := by
  have start : Escaped u.dropFinalSlash.path := by
    unfold dropFinalSlash
    split
    · exact escaped.subset (List.dropLast_subset _)
    · exact escaped
  unfold extend
  generalize u.dropFinalSlash = v at start
  induction texts generalizing v with
  | nil => exact start
  | cons text texts ih => exact ih (v.addSegment text) (escaped_addSegment start text)

theorem isPathChar_written (escaped : Escaped path) : ∀ c ∈ written path, IsPathChar c := by
  intro c member
  obtain ⟨s, segment, within⟩ := List.mem_flatMap.mp member
  rcases List.mem_cons.mp within with rfl | within
  · decide
  · exact escaped s segment c within

def targetPath (u : Url) : String := if u.path = [] then "/" else u.pathText

theorem isPathChar_targetPath {u : Url} (escaped : Escaped u.path) :
    ∀ c ∈ u.targetPath.toList, IsPathChar c := by
  unfold targetPath
  split
  · intro c member
    rw [List.mem_singleton.mp member]
    decide
  · rw [toList_pathText]
    exact isPathChar_written escaped

end Url

def readPair (cs : List Char) : String × String :=
  (String.ofList (cs.takeWhile (· ≠ '=')), String.ofList ((cs.dropWhile (· ≠ '=')).drop 1))

def readPairs (target : String) : List (String × String) :=
  (((target.toList.dropWhile (· ≠ '?')).drop 1).splitOn '&').map readPair

namespace Url

/-- A name and a value that can be told apart in a query. -/
structure Plain (name value : String) : Prop where
  name : '&' ∉ name.toList ∧ '=' ∉ name.toList
  value : '&' ∉ value.toList

variable {u : Url} {name value : String}

theorem readPairs_target (escaped : Escaped u.path) {q : String} (query : u.query = some q) :
    readPairs u.target = (q.toList.splitOn '&').map readPair := by
  have mark : "?".toList = ['?'] := rfl
  have whole : '?' ∉ u.targetPath.toList := fun member =>
    absurd (isPathChar_targetPath escaped _ member) (by decide)
  unfold readPairs
  show (((u.targetPath ++ behind "?" u.query).toList.dropWhile _).drop 1 |>.splitOn '&').map _ = _
  rw [query, behind, String.toList_append, String.toList_append, mark, List.singleton_append,
    Text.dropWhile_append_cons whole]
  rfl

theorem readPair_of_plain (plain : Plain name value) :
    readPair (name ++ "=" ++ value).toList = (name, value) := by
  have mark : "=".toList = ['='] := rfl
  have split : (name ++ "=" ++ value).toList = name.toList ++ '=' :: value.toList := by
    simp [mark]
  rw [readPair, split, Text.takeWhile_append_cons plain.name.2,
    Text.dropWhile_append_cons plain.name.2]
  simp

theorem not_mem_pair (plain : Plain name value) : '&' ∉ (name ++ "=" ++ value).toList := by
  simp [plain.name.1, plain.value]

theorem query_withPair (bare : u.query.getD "" = "") (name value : String) :
    (u.withPair name value).query = some (name ++ "=" ++ value) := by
  unfold withPair
  cases given : u.query with
  | none => rfl
  | some q =>
    have empty : q = "" := by simpa [given] using bare
    simp [empty]

theorem readPairs_first (escaped : Escaped u.path) (bare : u.query.getD "" = "")
    (plain : Plain name value) : readPairs (u.withPair name value).target = [(name, value)] := by
  have query := query_withPair bare name value
  have escaped' : Escaped (u.withPair name value).path := by rwa [withPair_path]
  rw [readPairs_target escaped' query, List.splitOn_eq_singleton (not_mem_pair plain),
    List.map_singleton, readPair_of_plain plain]

theorem readPairs_further (escaped : Escaped u.path) {q : String} (query : u.query = some q)
    (given : q ≠ "") (plain : Plain name value) :
    readPairs (u.withPair name value).target = readPairs u.target ++ [(name, value)] := by
  have query' : (u.withPair name value).query = some (q ++ "&" ++ (name ++ "=" ++ value)) := by
    simp [withPair, query, given]
  have escaped' : Escaped (u.withPair name value).path := by rwa [withPair_path]
  have mark : "&".toList = ['&'] := rfl
  have split : (q ++ "&" ++ (name ++ "=" ++ value)).toList =
      q.toList ++ '&' :: (name ++ "=" ++ value).toList := by
    simp [mark]
  rw [readPairs_target escaped' query', readPairs_target escaped query, split,
    List.splitOn_append_cons_self, List.splitOn_eq_singleton (not_mem_pair plain),
    List.map_append, List.map_singleton, readPair_of_plain plain]

end Url

end TestImpact.Web
