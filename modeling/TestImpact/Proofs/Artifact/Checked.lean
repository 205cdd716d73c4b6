import TestImpact.Command.Artifacts
import TestImpact.Proofs.Artifact.Search

namespace TestImpact

open Files Text.Utf8

namespace Artifact

variable {α : Type} {t : FileTree} {kind : Kind} {r : Json.Reader α} {listed : List Location}
  {paths files found : List Path} {p file : Path} {cause : Cause} {e : Error}

/-- A search through some paths comes to a path, with the directories that it listed before. Up to
    there each path leads somewhere, and each directory that is new can be listed. -/
inductive Comes (t : FileTree) : List Location → List Path → List Location → Path → Prop
  | here {listed : List Location} {p : Path} {more : List Path} :
      Comes t listed (p :: more) listed p
  | again {listed seen : List Location} {p q : Path} {more : List Path} {d : Location}
      (visits : Visits t p d) (known : d ∈ listed) (on : Comes t listed more seen q) :
      Comes t listed (p :: more) seen q
  | into {listed seen : List Location} {p q : Path} {more : List Path} {d : Location}
      {names : List Name} (visits : Visits t p d) (unknown : d ∉ listed)
      (listing : t.list d = .ok names)
      (on : Comes t (d :: listed) (names.map p.child ++ more) seen q) :
      Comes t listed (p :: more) seen q
  | past {listed seen : List Location} {p q : Path} {more : List Path} {place : Location}
      (came : placeOf t p = .ok place) (other : t.node? place ≠ some .directory)
      (on : Comes t listed more seen q) : Comes t listed (p :: more) seen q

theorem Comes.search {seen : List Location} (comes : Comes t listed paths seen p)
    (stops : Stops t seen p cause) :
    search t kind listed paths = .error (.located p.display cause) := by
  induction comes with
  | here => exact stops.search
  | again visits known _ ih => simp [Artifact.search, visits.1, visits.2, known, ih stops]
  | into visits unknown listing _ ih =>
    simp [Artifact.search, visits.1, visits.2, unknown, listing, ih stops]
  | past came other _ ih => simp [Artifact.search, came, other, ih stops, Except.map]

theorem comes_of_search (ended : search t kind listed paths = .error cause) :
    ∃ seen p cause', Comes t listed paths seen p ∧ Stops t seen p cause' ∧
      cause = .located p.display cause' := by
  fun_induction search t kind listed paths with
  | case1 => cases ended
  | case2 listed p more cause' failed =>
    exact ⟨_, p, cause', .here, stops_of_placeOf failed, (Except.error.inj ended).symm⟩
  | case3 listed p more d came directory known ih =>
    obtain ⟨seen, q, cause', comes, stops, same⟩ := ih ended
    exact ⟨seen, q, cause', .again ⟨came, directory⟩ known comes, stops, same⟩
  | case4 listed p more d came directory unknown _ cause' failed =>
    exact ⟨_, p, cause', .here, .closed ⟨came, directory⟩ unknown failed,
      (Except.error.inj ended).symm⟩
  | case5 listed p more d came directory unknown _ names listing ih =>
    obtain ⟨seen, q, cause', comes, stops, same⟩ := ih ended
    exact ⟨seen, q, cause', .into ⟨came, directory⟩ unknown listing comes, stops, same⟩
  | case6 listed p more place came other _ ih =>
    obtain ⟨seen, q, cause', comes, stops, same⟩ := ih (map_eq_error.mp ended)
    exact ⟨seen, q, cause', .past came other comes, stops, same⟩
  | case7 listed p more place came other _ ih =>
    obtain ⟨seen, q, cause', comes, stops, same⟩ := ih ended
    exact ⟨seen, q, cause', .past came other comes, stops, same⟩

theorem isArtifact_of_mem_find (ended : find t kind paths = .ok found) (member : p ∈ found) :
    isArtifact t kind p = true := by
  unfold find at ended
  cases went : search t kind [] paths with
  | error cause => simp [went, Except.map] at ended
  | ok s =>
    obtain ⟨visits, searched⟩ := searched t kind List.nodup_nil went
    have same : s.artifacts = found := by simpa [went, Except.map] using ended
    exact (List.mem_filter.mp (searched.artifacts.mem_iff.mp (same ▸ member))).2

theorem find_artifact (artifact : isArtifact t kind p = true) : find t kind [p] = .ok [p] := by
  unfold isArtifact at artifact
  split at artifact
  · rename_i place resolved
    simp only [decide_eq_true_eq] at artifact
    simp [find, search, placeOf_eq resolved, artifact, Except.map, Search.add]
  · cases artifact

theorem readAll_found (ended : find t kind paths = .ok found) (member : p ∈ found) :
    readAll t r kind [p] = readFile t r p := by
  have alone := find_artifact (isArtifact_of_mem_find ended member)
  cases read : readFile t r p <;> simp [readAll, alone, readFiles, read]

theorem readFiles_eq (t : FileTree) (r : Json.Reader α) (files : List Path) :
    readFiles t r files = (files.mapM (readFile t r)).map List.flatten := by
  induction files with
  | nil => rfl
  | cons p more ih =>
    rw [readFiles, ih, List.mapM_cons]
    cases readFile t r p with
    | error e => rfl
    | ok here => cases more.mapM (readFile t r) <;> rfl

/-- What a read of artifacts stops at: the first path that the search for them stops at, or else the
    first file that cannot be read or is no list of records. -/
inductive FirstFault (t : FileTree) (r : Json.Reader α) (kind : Kind) (paths : List Path) :
    Error → Prop
  | unsearched {seen : List Location} {p : Path} {cause : Cause} (comes : Comes t [] paths seen p)
      (stops : Stops t seen p cause) : FirstFault t r kind paths (.io (.located p.display cause))
  | unread {before after : List Path} {p : Path} {cause : Cause}
      (found : find t kind paths = .ok (before ++ p :: after))
      (fine : ∀ q ∈ before, (readFile t r q).isOk) (failed : t.read p = .error cause) :
      FirstFault t r kind paths (.io (.located p.display cause))
  | malformed {before after : List Path} {p : Path} {content : List UInt8} {fault : Json.Fault}
      (found : find t kind paths = .ok (before ++ p :: after))
      (fine : ∀ q ∈ before, (readFile t r q).isOk) (held : t.read p = .ok content)
      (faulty : Json.read (Json.Reader.list r) (Text.Utf8.units content) = .error fault) :
      FirstFault t r kind paths (.malformedArtifact p fault)

theorem readFile_error_iff : readFile t r p = .error e ↔
    (∃ cause, t.read p = .error cause ∧ e = .io (.located p.display cause)) ∨
      ∃ content fault, t.read p = .ok content ∧ e = .malformedArtifact p fault ∧
        Json.read (Json.Reader.list r) (Text.Utf8.units content) = .error fault := by
  unfold readFile
  cases t.read p with
  | error cause => simp [eq_comm]
  | ok content =>
    cases read : Json.read (Json.Reader.list r) (Text.Utf8.units content) <;> simp [read, eq_comm]

theorem readFiles_error_iff : readFiles t r files = .error e ↔
    ∃ before p after, files = before ++ p :: after ∧ (∀ q ∈ before, (readFile t r q).isOk) ∧
      readFile t r p = .error e := by
  rw [readFiles_eq, map_eq_error, mapM_eq_error_iff]

theorem readFiles_ok_iff {records : List α} : readFiles t r files = .ok records ↔
    ∃ read : List (Path × List α), read.map Prod.fst = files ∧
      (∀ file ∈ read, readFile t r file.1 = .ok file.2) ∧ records = read.flatMap Prod.snd := by
  rw [readFiles_eq]
  constructor
  · intro ended
    cases ran : files.mapM (readFile t r) with
    | error e => simp [ran, Except.map] at ended
    | ok lists =>
      simp only [ran, Except.map, Except.ok.injEq] at ended
      obtain ⟨read, rfl, rfl, each⟩ := mapM_eq_ok_iff.mp ran
      exact ⟨read, rfl, each, ended.symm⟩
  · rintro ⟨read, rfl, each, rfl⟩
    rw [mapM_eq_ok_iff.mpr ⟨read, rfl, rfl, each⟩]
    rfl

theorem readAll_ok_iff {records : List α} : readAll t r kind paths = .ok records ↔
    ∃ read : List (Path × List α), find t kind paths = .ok (read.map Prod.fst) ∧
      (∀ file ∈ read, readFile t r file.1 = .ok file.2) ∧ records = read.flatMap Prod.snd := by
  unfold readAll
  cases found : find t kind paths with
  | error cause => simp
  | ok files =>
    simp only [mapError_ok, ok_bind, readFiles_ok_iff, Except.ok.injEq, @eq_comm _ files]

theorem readAll_error_iff : readAll t r kind paths = .error e ↔ FirstFault t r kind paths e := by
  unfold readAll
  constructor
  · intro ended
    cases found : find t kind paths with
    | error cause =>
      obtain ⟨seen, p, cause', comes, stops, rfl⟩ := comes_of_search (map_eq_error.mp found)
      rw [found] at ended
      cases ended
      exact .unsearched comes stops
    | ok files =>
      rw [found] at ended
      obtain ⟨before, p, after, rfl, fine, failed⟩ := readFiles_error_iff.mp ended
      rcases readFile_error_iff.mp failed with
        ⟨cause, unread, rfl⟩ | ⟨content, fault, held, rfl, faulty⟩
      · exact .unread found fine unread
      · exact .malformed found fine held faulty
  · intro fault
    cases fault with
    | unsearched comes stops =>
      have found : find t kind paths = .error _ := map_eq_error.mpr (comes.search stops)
      rw [found]
      rfl
    | unread found fine failed =>
      rw [found]
      exact readFiles_error_iff.mpr
        ⟨_, _, _, rfl, fine, readFile_error_iff.mpr (.inl ⟨_, failed, rfl⟩)⟩
    | malformed found fine held faulty =>
      rw [found]
      exact readFiles_error_iff.mpr
        ⟨_, _, _, rfl, fine, readFile_error_iff.mpr (.inr ⟨_, _, held, rfl, faulty⟩)⟩

end Artifact

namespace Command

open Artifact

variable {t : FileTree} {kind : Kind} {paths files : List Path} {check : Bool} {p : Path}
  {objects : List Json.Value} {lines : List String} {e : Error}

def plainLine (p : Path) : String := p.display ++ "\n"

def countedLine (p : Path) (records : Nat) : String := s!"{p.display}  ({records} records)\n"

def report (kind : Kind) (lines : List String) : String :=
  if lines = [] then s!"No {kind.readableName} artifacts found.\n"
  else String.join lines ++ s!"{lines.length} {kind.readableName} artifact(s)\n"

theorem artifacts_of_found (allowed : check = true → kind.isJson = true)
    (found : find t kind paths = .ok files) : artifacts t kind paths check =
      ((files.mapM (artifactLine t kind check)).map (report kind)).mapError .failed := by
  have sane : ¬ (check = true ∧ kind.isJson = false) := by
    rintro ⟨checks, binary⟩
    cases (allowed checks).symm.trans binary
  rw [artifacts, if_neg sane, found]
  cases files with
  | nil => rfl
  | cons p more =>
    dsimp only
    cases each : (p :: more).mapM (artifactLine t kind check) with
    | error e => rfl
    | ok lines =>
      obtain ⟨pairs, front, rfl, -⟩ := mapM_eq_ok_iff.mp each
      have some : pairs ≠ [] := by
        rintro rfl
        cases front
      simp [← front, report, some, Except.map]

theorem artifactLine_found (found : find t kind paths = .ok files) (member : p ∈ files) :
    artifactLine t kind true p =
      (readFile t anyRecord p).map fun records => countedLine p records.length := by
  simp only [artifactLine, if_true, readAll_found found member]
  cases readFile t anyRecord p <;> rfl

theorem lines_error_iff (found : find t kind paths = .ok files) :
    files.mapM (artifactLine t kind true) = .error e ↔ readFiles t anyRecord files = .error e := by
  rw [readFiles_error_iff, mapM_eq_error_iff]
  refine exists_congr fun before => exists_congr fun p => exists_congr fun after =>
    and_congr_right ?_
  rintro rfl
  have line (q : Path) (member : q ∈ before ++ p :: after) := artifactLine_found found member
  refine and_congr (forall₂_congr fun q member => ?_) ?_
  · rw [line q (List.mem_append_left _ member)]
    cases readFile t anyRecord q <;> rfl
  · rw [line p (by simp), map_eq_error]

theorem lines_of_read {read : List (Path × List Json.Value)}
    (found : find t kind paths = .ok (read.map Prod.fst))
    (each : ∀ file ∈ read, readFile t anyRecord file.1 = .ok file.2) :
    (read.map Prod.fst).mapM (artifactLine t kind true) =
      .ok (read.map fun file => countedLine file.1 file.2.length) := by
  refine mapM_eq_ok_iff.mpr
    ⟨read.map fun file => (file.1, countedLine file.1 file.2.length), by simp, by simp, ?_⟩
  intro pair member
  obtain ⟨file, listed, rfl⟩ := List.mem_map.mp member
  rw [artifactLine_found found (List.mem_map_of_mem listed), each file listed]
  rfl

theorem mapM_plain (files : List Path) :
    files.mapM (artifactLine t kind false) = .ok (files.map plainLine) :=
  mapM_eq_ok_iff.mpr ⟨files.map fun p => (p, plainLine p), by simp [Function.comp_def], by simp,
    by simp [artifactLine, plainLine]⟩

/-- A check of artifacts fails where a read of all their records does, in the same way and for the
    same path. Otherwise it shows the files that are shown without a check, and as many records as
    the read gives. -/
theorem check_reads_all (json : kind.isJson = true) (t : FileTree) (paths : List Path) :
    (∀ f, artifacts t kind paths true = .error f ↔
      ∃ e, f = .failed e ∧ readAll t anyRecord kind paths = .error e) ∧
    (∀ e, readAll t anyRecord kind paths = .error e ↔ FirstFault t anyRecord kind paths e) ∧
    ∀ objects, readAll t anyRecord kind paths = .ok objects →
      ∃ read : List (Path × List Json.Value),
        find t kind paths = .ok (read.map Prod.fst) ∧
        (∀ file ∈ read, readFile t anyRecord file.1 = .ok file.2) ∧
        objects = read.flatMap Prod.snd ∧
        objects.length = (read.map fun file => file.2.length).sum ∧
        artifacts t kind paths false =
          .ok (report kind (read.map fun file => plainLine file.1)) ∧
        artifacts t kind paths true =
          .ok (report kind (read.map fun file => countedLine file.1 file.2.length)) := by
  refine ⟨fun f => ?_, fun e => readAll_error_iff, fun objects all => ?_⟩
  · cases found : find t kind paths with
    | error cause => simp [artifacts, readAll, json, found, eq_comm]
    | ok files =>
      have faults (e : Error) := lines_error_iff (e := e) found
      rw [artifacts_of_found (fun _ => json) found]
      simp only [readAll, found, mapError_ok, ok_bind, ← faults]
      cases files.mapM (artifactLine t kind true) <;> simp [Except.map, eq_comm]
  · obtain ⟨read, found, each, rfl⟩ := readAll_ok_iff.mp all
    refine ⟨read, found, each, rfl, List.length_flatMap, ?_, ?_⟩
    · rw [artifacts_of_found (by simp) found, mapM_plain, List.map_map]
      rfl
    · rw [artifacts_of_found (fun _ => json) found, lines_of_read found each]
      rfl

def linkedTwice : FileTree where
  nodes :=
    { entries :=
        [([encode "a"], .directory), ([encode "b"], .link (.ofString "a")),
          ([encode "a", encode "test-list-1.json"], .file (encode "[1, [2]]")),
          ([encode "test-list-2.json"], .file (encode "[3"))]
      distinct := by decide +kernel }

theorem linkedTwice_checked :
    let direct := Path.ofString "a/test-list-1.json"
    let linked := Path.ofString "b/test-list-1.json"
    let cut := Path.ofString "test-list-2.json"
    Kind.testList.isJson = true ∧
      artifacts linkedTwice .testList [linked, cut, cut] true =
        .error (.failed (.malformedArtifact cut .endInList)) ∧
      ∃ objects, readAll linkedTwice anyRecord .testList [direct, .ofString "b/"] = .ok objects ∧
        objects.length = 4 ∧ ∃ read : List (Path × List Json.Value),
          read.map Prod.fst = [direct, linked] ∧ (read.map fun file => file.2.length).sum = 4 ∧
          artifacts linkedTwice .testList [direct, .ofString "b/"] true =
            .ok (report .testList (read.map fun file => countedLine file.1 file.2.length)) := by
  intro direct linked cut
  have json : Kind.testList.isJson = true := by decide
  have found : find linkedTwice .testList [.ofString "a/test-list-1.json", .ofString "b/"] =
      .ok [.ofString "a/test-list-1.json", .ofString "b/test-list-1.json"] := by cbv
  have found' : find linkedTwice .testList [.ofString "b/test-list-1.json",
        .ofString "test-list-2.json", .ofString "test-list-2.json"] =
      .ok [.ofString "b/test-list-1.json", .ofString "test-list-2.json",
        .ofString "test-list-2.json"] := by cbv
  have counted : (readFiles linkedTwice anyRecord [direct, linked]).map List.length = .ok 4 := by
    decide +kernel
  have cutOff : (readFiles linkedTwice anyRecord [linked, cut, cut]).map List.length =
      .error (.malformedArtifact cut .endInList) := by decide +kernel
  have faulty : readAll linkedTwice anyRecord .testList [linked, cut, cut] =
      .error (.malformedArtifact cut .endInList) := by
    rw [readAll, found', mapError_ok, ok_bind]
    exact map_eq_error.mp cutOff
  refine ⟨json, ((check_reads_all json linkedTwice _).1 _).mpr ⟨_, rfl, faulty⟩, ?_⟩
  cases all : readFiles linkedTwice anyRecord [direct, linked] with
  | error e =>
    rw [all] at counted
    cases counted
  | ok objects =>
    rw [all] at counted
    have whole :
        readAll linkedTwice anyRecord .testList [direct, .ofString "b/"] = .ok objects := by
      rw [readAll, found]
      exact all
    obtain ⟨read, files, -, -, lengths, -, shown⟩ :=
      (check_reads_all json linkedTwice _).2.2 objects whole
    have four : objects.length = 4 := Except.ok.inj counted
    exact ⟨objects, whole, four, read, Except.ok.inj (files.symm.trans found),
      lengths.symm.trans four, shown⟩

end Command

end TestImpact
