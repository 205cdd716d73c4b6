import Mathlib
import TestImpact.Artifact.Search
import TestImpact.Proofs.Files.Canonical
import TestImpact.Proofs.Files.Parent

namespace TestImpact.Artifact

open Files Text.Utf8

def isArtifact (t : FileTree) (kind : Kind) (p : Path) : Bool :=
  match t.resolve p with
  | .ok place => t.node? place ≠ some .directory ∧ kind.covers p
  | .error _ => false

def Enters (t : FileTree) (p : Path) (d : Location) : Prop :=
  t.resolve p = .ok d ∧ t.node? d = some .directory

theorem placeOf_eq {t : FileTree} {p : Path} {place : Location}
    (resolved : t.resolve p = .ok place) :
    placeOf t p =
      if t.node? place = some .directory ∧ ¬ t.Straight p then .error .nameTooLong
      else .ok place := by
  unfold placeOf
  rw [resolved, ok_bind, FileTree.checkCanonical_eq]
  by_cases directory : t.node? place = some .directory <;> by_cases straight : t.Straight p <;>
    simp [directory, straight]

theorem placeOf_of_error {t : FileTree} {p : Path} {cause : Cause}
    (failed : t.resolve p = .error cause) : placeOf t p = .error cause := by
  rw [placeOf, failed, error_bind]

theorem placeOf_ok_iff {t : FileTree} {p : Path} {place : Location} :
    placeOf t p = .ok place ↔
      t.resolve p = .ok place ∧ (t.node? place = some .directory → t.Straight p) := by
  cases resolved : t.resolve p with
  | error cause => simp [placeOf_of_error resolved]
  | ok place' =>
    rw [placeOf_eq resolved]
    split
    · rename_i beyond
      refine iff_of_false nofun fun ⟨same, straight⟩ => beyond.2 (straight ?_)
      cases same
      exact beyond.1
    · rename_i fine
      refine ⟨fun same => ⟨same, fun directory => ?_⟩, And.left⟩
      cases same
      exact Decidable.byContradiction fun strays => fine ⟨directory, strays⟩

def Visits (t : FileTree) (p : Path) (d : Location) : Prop :=
  placeOf t p = .ok d ∧ t.node? d = some .directory

theorem Visits.enters {t : FileTree} {p : Path} {d : Location} (visits : Visits t p d) :
    Enters t p d := ⟨(placeOf_ok_iff.mp visits.1).1, visits.2⟩

theorem Enters.visits {t : FileTree} {p : Path} {d : Location} (enters : Enters t p d)
    (straight : t.Straight p) : Visits t p d :=
  ⟨placeOf_ok_iff.mpr ⟨enters.1, fun _ => straight⟩, enters.2⟩

/-- Why a search gets no further than to a path: it leads nowhere, or to a directory that has no
    canonical path, or to a new one that cannot be listed. -/
inductive Stops (t : FileTree) (seen : List Location) (p : Path) : Cause → Prop
  | lost {cause : Cause} (failed : t.resolve p = .error cause) : Stops t seen p cause
  | strayed {d : Location} (enters : Enters t p d) (strays : ¬ t.Straight p) :
      Stops t seen p .nameTooLong
  | closed {d : Location} {cause : Cause} (visits : Visits t p d) (unknown : d ∉ seen)
      (failed : t.list d = .error cause) : Stops t seen p cause

theorem stops_of_placeOf {t : FileTree} {seen : List Location} {p : Path} {cause : Cause}
    (failed : placeOf t p = .error cause) :
    Stops t seen p cause := by
  cases resolved : t.resolve p with
  | error cause' =>
    cases (placeOf_of_error resolved).symm.trans failed
    exact .lost resolved
  | ok d =>
    rw [placeOf_eq resolved] at failed
    split at failed
    · rename_i beyond
      cases failed
      exact .strayed ⟨resolved, beyond.1⟩ beyond.2
    · cases failed

theorem Stops.search {t : FileTree} {kind : Kind} {seen : List Location} {p : Path} {cause : Cause}
    {more : List Path} (stops : Stops t seen p cause) :
    search t kind seen (p :: more) = .error (.located p.display cause) := by
  cases stops with
  | lost failed => simp [Artifact.search, placeOf_of_error failed]
  | strayed enters strays =>
    simp [Artifact.search, placeOf_eq enters.1, enters.2, strays]
  | closed visits unknown failed =>
    simp [Artifact.search, visits.1, visits.2, unknown, failed]

def entries (t : FileTree) (visit : Location × Path) : List Path :=
  (t.names visit.1).map visit.2.child

def Closed (t : FileTree) (among : Location → Prop) : Prop :=
  ∀ visit, among visit.1 → Enters t visit.2 visit.1 →
    ∀ p ∈ entries t visit, ∀ d, Enters t p d → among d

/-- What a search did that got to its end, by the directories that it listed and the paths on which
    it came to them. -/
structure Searched (t : FileTree) (kind : Kind) (before : List Location) (paths : List Path)
    (s : Search) (visits : List (Location × Path)) : Prop where
  listed : s.listed = visits.map Prod.fst ++ before
  once : s.listed.Nodup
  entered : ∀ visit ∈ visits, Enters t visit.2 visit.1
  artifacts : s.artifacts.Perm ((paths ++ visits.flatMap (entries t)).filter (isArtifact t kind))
  resolved : ∀ p ∈ paths ++ visits.flatMap (entries t), ∃ place, t.resolve p = .ok place ∧
    (t.node? place = some .directory → place ∈ s.listed)
  within : ∀ among, Closed t among → (∀ p ∈ paths, ∀ d, Enters t p d → among d) →
    ∀ visit ∈ visits, among visit.1

section Searched

variable {t : FileTree} {kind : Kind} {before : List Location} {p : Path} {more : List Path}
  {s : Search} {visits : List (Location × Path)} {place : Location}

theorem isArtifact_of_resolve (resolved : t.resolve p = .ok place) :
    isArtifact t kind p = decide (t.node? place ≠ some .directory ∧ kind.covers p) := by
  simp only [isArtifact, resolved]

theorem Searched.done (once : before.Nodup) : Searched t kind before [] ⟨[], before⟩ [] where
  listed := rfl
  once := once
  entered := by simp
  artifacts := by simp
  resolved := by simp
  within := by simp

theorem Searched.pass (searched : Searched t kind before more s visits)
    (resolved : t.resolve p = .ok place) (other : isArtifact t kind p = false)
    (known : t.node? place = some .directory → place ∈ before) :
    Searched t kind before (p :: more) s visits where
  listed := searched.listed
  once := searched.once
  entered := searched.entered
  artifacts := by
    rw [List.cons_append, List.filter_cons_of_neg (by simp [other])]
    exact searched.artifacts
  resolved q member := by
    rcases List.mem_cons.mp member with rfl | member
    · refine ⟨place, resolved, fun directory => ?_⟩
      rw [searched.listed]
      exact List.mem_append_right _ (known directory)
    · exact searched.resolved q member
  within among closed start :=
    searched.within among closed fun q member => start q (List.mem_cons_of_mem _ member)

theorem Searched.add (searched : Searched t kind before more s visits)
    (resolved : t.resolve p = .ok place) (artifact : isArtifact t kind p = true) :
    Searched t kind before (p :: more) (s.add p) visits where
  listed := searched.listed
  once := searched.once
  entered := searched.entered
  artifacts := by
    rw [List.cons_append, List.filter_cons_of_pos artifact]
    exact searched.artifacts.cons p
  resolved q member := by
    rcases List.mem_cons.mp member with rfl | member
    · refine ⟨place, resolved, fun directory => ?_⟩
      simp [isArtifact_of_resolve resolved, directory] at artifact
    · exact searched.resolved q member
  within among closed start :=
    searched.within among closed fun q member => start q (List.mem_cons_of_mem _ member)

theorem Searched.visit (entered : Enters t p place)
    (searched : Searched t kind (place :: before) (entries t (place, p) ++ more) s visits) :
    Searched t kind before (p :: more) s (visits ++ [(place, p)]) where
  listed := by simp [searched.listed]
  once := searched.once
  entered visit member := by
    rcases List.mem_append.mp member with member | member
    · exact searched.entered visit member
    · cases List.mem_singleton.mp member
      exact entered
  artifacts := by
    have other : ¬ isArtifact t kind p = true := by
      simp [isArtifact_of_resolve entered.1, entered.2]
    rw [List.cons_append, List.filter_cons_of_neg other]
    -- The search takes up the entries in front of the other paths, here they come behind them.
    refine searched.artifacts.trans (.filter _ ?_)
    rw [List.flatMap_append, List.flatMap_singleton, ← List.append_assoc more, List.append_assoc]
    exact List.perm_append_comm
  resolved q member := by
    rcases List.mem_cons.mp member with rfl | member
    · exact ⟨place, entered.1, fun _ => by simp [searched.listed]⟩
    · refine searched.resolved q ?_
      simp only [List.append_eq, List.flatMap_append, List.flatMap_singleton, List.mem_append]
        at member ⊢
      tauto
  within among closed start := by
    have here : among place := start p List.mem_cons_self place entered
    have below := searched.within among closed fun q member d enters =>
      (List.mem_append.mp member).elim
        (fun inside => closed (place, p) here entered q inside d enters)
        (fun later => start q (List.mem_cons_of_mem _ later) d enters)
    intro visit member
    rcases List.mem_append.mp member with member | member
    · exact below visit member
    · cases List.mem_singleton.mp member
      exact here

end Searched

theorem searched (t : FileTree) (kind : Kind) {before : List Location} {paths : List Path}
    {s : Search} (once : before.Nodup) (ended : search t kind before paths = .ok s) :
    ∃ visits, Searched t kind before paths s visits := by
  fun_induction search t kind before paths generalizing s with
  | case1 before =>
    cases ended
    exact ⟨[], .done once⟩
  | case2 => cases ended
  | case3 before p more place came directory known ih =>
    have resolved := (placeOf_ok_iff.mp came).1
    obtain ⟨visits, searched⟩ := ih once ended
    refine ⟨visits, searched.pass resolved ?_ fun _ => known⟩
    simp [isArtifact_of_resolve resolved, directory]
  | case4 => cases ended
  | case5 before p more place came directory unknown _ names listing ih =>
    obtain ⟨visits, searched⟩ := ih (List.nodup_cons.mpr ⟨unknown, once⟩) ended
    rw [FileTree.names_of_list listing] at searched
    exact ⟨_, .visit ⟨(placeOf_ok_iff.mp came).1, directory⟩ searched⟩
  | case6 before p more place came other covered ih =>
    have resolved := (placeOf_ok_iff.mp came).1
    cases rest : search t kind before more with
    | error cause => simp [rest, Except.map] at ended
    | ok s' =>
      obtain ⟨visits, searched⟩ := ih once rest
      simp only [rest, Except.map, Except.ok.injEq] at ended
      subst ended
      refine ⟨visits, searched.add resolved ?_⟩
      simp [isArtifact_of_resolve resolved, other, covered]
  | case7 before p more place came other uncovered ih =>
    have resolved := (placeOf_ok_iff.mp came).1
    obtain ⟨visits, searched⟩ := ih once ended
    refine ⟨visits, searched.pass resolved ?_ fun directory => absurd directory other⟩
    simp [isArtifact_of_resolve resolved, uncovered]

/-- The directories that some paths lead to, and those that an entry of one of them leads to. -/
inductive Reachable (t : FileTree) (paths : List Path) : Location → Prop
  | given {p : Path} {d : Location} (member : p ∈ paths) (enters : Enters t p d) :
      Reachable t paths d
  | within {d d' : Location} {name : Name} (above : Reachable t paths d)
      (entry : (t.node? (d ++ [name])).isSome) (leads : t.LeadsTo d name d')
      (directory : t.node? d' = some .directory) : Reachable t paths d'

structure Offers (t : FileTree) (kind : Kind) (d : Location) (name : Name) : Prop where
  entry : (t.node? (d ++ [name])).isSome
  leads : ∃ place, t.LeadsTo d name place ∧ t.node? place ≠ some .directory
  named : kind.names name

structure Finding where
  directory : Location
  name : Name
  path : Path

def Finding.spot (f : Finding) : Location × Name := (f.directory, f.name)

def findings (t : FileTree) (visit : Location × Path) : List Finding :=
  (t.names visit.1).map fun name => ⟨visit.1, name, visit.2.child name⟩

theorem Enters.bytes_ne_nil {t : FileTree} {p : Path} {d : Location} (enters : Enters t p d) :
    p.bytes ≠ [] :=
  (FileTree.checkPath_ok_iff.mp (FileTree.resolve_ok_iff.mp enters.1).1).2.1

theorem covers_child {kind : Kind} {p : Path} {name : Name} (given : p.bytes ≠ [])
    (proper : Proper name) : kind.covers (p.child name) = kind.names name := by
  simp only [Kind.covers, Path.fileName_child given proper]

theorem closed_reachable {t : FileTree} (wellNamed : t.WellNamed) (paths : List Path) :
    Closed t (Reachable t paths) := by
  rintro ⟨d, p⟩ above enters q member d' ⟨below, directory⟩
  obtain ⟨name, listed, rfl⟩ := List.mem_map.mp member
  exact .within above (FileTree.mem_names_iff.mp listed)
    (FileTree.leadsTo_of_resolve_child (wellNamed.proper listed) enters.1 enters.2 below) directory

section Find

variable {t : FileTree} {kind : Kind} {paths : List Path} {s : Search}
  {visits : List (Location × Path)}

theorem Searched.visited (searched : Searched t kind [] paths s visits) (wellNamed : t.WellNamed)
    {d : Location} (reachable : Reachable t paths d) : d ∈ visits.map Prod.fst := by
  have listed : s.listed = visits.map Prod.fst := by rw [searched.listed, List.append_nil]
  rw [← listed]
  -- All that was taken up resolved, so what it leads to was listed, be it on this way or another.
  induction reachable with
  | @given p d member enters =>
    obtain ⟨place, resolved, known⟩ := searched.resolved p (List.mem_append_left _ member)
    cases enters.1.symm.trans resolved
    exact known enters.2
  | @within d d' name above entry leads directory ih =>
    rw [listed] at ih
    obtain ⟨⟨_, p⟩, visited, rfl⟩ := List.mem_map.mp ih
    have member := FileTree.mem_names_iff.mpr entry
    obtain ⟨enters, isDirectory⟩ := searched.entered _ visited
    obtain ⟨place, resolved, known⟩ := searched.resolved (p.child name)
      (List.mem_append_right _ (List.mem_flatMap.mpr ⟨_, visited, List.mem_map_of_mem member⟩))
    have leads' := FileTree.leadsTo_of_resolve_child (wellNamed.proper member) enters isDirectory
      resolved
    cases leads.symm.trans leads'
    exact known directory

theorem Searched.found_iff (searched : Searched t kind [] paths s visits)
    (wellNamed : t.WellNamed) {d : Location} {p : Path} {name : Name} (visited : (d, p) ∈ visits)
    (member : name ∈ t.names d) :
    isArtifact t kind (p.child name) = true ↔ Offers t kind d name := by
  have proper := wellNamed.proper member
  have enters := searched.entered _ visited
  obtain ⟨place, resolved, -⟩ := searched.resolved (p.child name)
    (List.mem_append_right _ (List.mem_flatMap.mpr ⟨_, visited, List.mem_map_of_mem member⟩))
  have leads := FileTree.leadsTo_of_resolve_child proper enters.1 enters.2 resolved
  rw [isArtifact_of_resolve resolved, covers_child enters.bytes_ne_nil proper, decide_eq_true_iff]
  constructor
  · rintro ⟨other, named⟩
    exact ⟨FileTree.mem_names_iff.mp member, ⟨place, leads, other⟩, named⟩
  · rintro ⟨-, ⟨place', leads', other⟩, named⟩
    cases leads.symm.trans leads'
    exact ⟨other, named⟩

theorem nodup_spots {visits : List (Location × Path)} (once : (visits.map Prod.fst).Nodup) :
    ((visits.flatMap (findings t)).map Finding.spot).Nodup := by
  rw [List.map_flatMap, List.nodup_flatMap]
  constructor
  · intro visit _
    rw [findings, List.map_map]
    exact (FileTree.nodup_names t visit.1).map fun name name' same => (Prod.mk.inj same).2
  · refine (List.pairwise_map.mp once).imp fun apart => ?_
    intro spot first second
    simp only [findings, Finding.spot, List.mem_map] at first second
    obtain ⟨f, ⟨_, -, rfl⟩, rfl⟩ := first
    obtain ⟨f', ⟨_, -, rfl⟩, same⟩ := second
    exact apart (Prod.mk.inj same).1.symm

theorem mem_findings_iff {f : Finding} : f ∈ visits.flatMap (findings t) ↔
    ∃ p, (f.directory, p) ∈ visits ∧ f.name ∈ t.names f.directory ∧ f.path = p.child f.name := by
  simp only [List.mem_flatMap, findings, List.mem_map]
  constructor
  · rintro ⟨⟨d, p⟩, visited, name, member, rfl⟩
    exact ⟨p, visited, member, rfl⟩
  · rintro ⟨p, visited, member, path⟩
    exact ⟨_, visited, f.name, member, by rw [← path]⟩

theorem map_path_findings (visits : List (Location × Path)) :
    (visits.flatMap (findings t)).map Finding.path = visits.flatMap (entries t) := by
  rw [List.map_flatMap]
  refine List.flatMap_congr fun visit _ => ?_
  rw [findings, List.map_map]
  rfl

theorem Searched.finding (searched : Searched t kind [] paths s visits) (wellNamed : t.WellNamed)
    {f : Finding} (member : f ∈ visits.flatMap (findings t)) :
    f.path.fileName = some f.name ∧
      ∃ above, f.path.parent = some above ∧ t.resolve above = .ok f.directory := by
  obtain ⟨p, visited, named, path⟩ := mem_findings_iff.mp member
  have proper := wellNamed.proper named
  have enters := searched.entered _ visited
  rw [path]
  exact ⟨Path.fileName_child enters.bytes_ne_nil proper, p.trimmed,
    Path.parent_child enters.bytes_ne_nil proper, FileTree.resolve_trimmed enters.1 enters.2⟩

theorem Searched.mem_spots_iff (searched : Searched t kind [] paths s visits)
    (wellNamed : t.WellNamed) {d : Location} {name : Name} :
    (d, name) ∈ ((visits.flatMap (findings t)).filter fun f => isArtifact t kind f.path).map
        Finding.spot ↔
      Reachable t paths d ∧ Offers t kind d name := by
  simp only [List.mem_map, List.mem_filter]
  constructor
  · rintro ⟨f, ⟨member, artifact⟩, rfl, rfl⟩
    obtain ⟨p, visited, named, path⟩ := mem_findings_iff.mp member
    rw [path, searched.found_iff wellNamed visited named] at artifact
    exact ⟨searched.within _ (closed_reachable wellNamed paths)
      (fun _ given _ enters => .given given enters) _ visited, artifact⟩
  · rintro ⟨reachable, offers⟩
    obtain ⟨⟨_, p⟩, visited, rfl⟩ := List.mem_map.mp (searched.visited wellNamed reachable)
    have member := FileTree.mem_names_iff.mpr offers.entry
    exact ⟨⟨_, name, p.child name⟩, ⟨mem_findings_iff.mpr ⟨p, visited, member, rfl⟩,
      (searched.found_iff wellNamed visited member).mpr offers⟩, rfl⟩

/-- Whatever links there are, a search gives each artifact below its paths once, on a path through a
    directory that it is in, and otherwise those of its paths that are artifacts. -/
theorem artifacts_found_once (wellNamed : t.WellNamed) {artifacts : List Path}
    (found : find t kind paths = .ok artifacts) :
    ∃ below : List Finding,
      artifacts.Perm (paths.filter (isArtifact t kind) ++ below.map Finding.path) ∧
      (below.map Finding.spot).Nodup ∧
      (∀ d name, (d, name) ∈ below.map Finding.spot ↔
        Reachable t paths d ∧ Offers t kind d name) ∧
      ∀ f ∈ below, f.path.fileName = some f.name ∧
        ∃ above, f.path.parent = some above ∧ t.resolve above = .ok f.directory := by
  obtain ⟨s, ended, rfl⟩ : ∃ s, search t kind [] paths = .ok s ∧ s.artifacts = artifacts := by
    unfold find at found
    cases ended : search t kind [] paths with
    | error cause => simp [ended, Except.map] at found
    | ok s => exact ⟨s, rfl, by simpa [ended, Except.map] using found⟩
  obtain ⟨visits, searched⟩ := searched t kind List.nodup_nil ended
  have once : (visits.map Prod.fst).Nodup := by
    have once := searched.once
    rwa [searched.listed, List.append_nil] at once
  refine ⟨(visits.flatMap (findings t)).filter fun f => isArtifact t kind f.path, ?_,
    (nodup_spots once).sublist (List.filter_sublist.map _),
    fun d name => searched.mem_spots_iff wellNamed,
    fun f member => searched.finding wellNamed (List.mem_filter.mp member).1⟩
  have paths_below : ((visits.flatMap (findings t)).filter fun f => isArtifact t kind f.path).map
      Finding.path = (visits.flatMap (entries t)).filter (isArtifact t kind) := by
    rw [← map_path_findings, List.filter_map]
    rfl
  rw [paths_below, ← List.filter_append]
  exact searched.artifacts

end Find

def looped : FileTree where
  nodes :=
    { entries :=
        [([encode "a"], .directory), ([encode "a", encode "up"], .link (.ofString "/")),
          ([encode "a", encode "test-list-1.json"], .file []),
          ([encode "b"], .link (.ofString "a"))]
      distinct := by decide +kernel }

theorem looped_found_once :
    let inputs := [Path.ofString "a/", Path.ofString "b/./up", Path.ofString "b/test-list-1.json"]
    let artifacts := [Path.ofString "a/test-list-1.json", Path.ofString "b/test-list-1.json"]
    looped.WellNamed ∧ find looped .testList inputs = .ok artifacts ∧
      ∃ below : List Finding,
        artifacts.Perm (inputs.filter (isArtifact looped .testList) ++ below.map Finding.path) ∧
        (below.map Finding.spot).Nodup ∧
        ∀ d name, (d, name) ∈ below.map Finding.spot ↔
          Reachable looped inputs d ∧ Offers looped .testList d name := by
  intro inputs artifacts
  have wellNamed : looped.WellNamed := by decide +kernel
  have found : find looped .testList inputs = .ok artifacts := by cbv
  obtain ⟨below, perm, once, complete, -⟩ := artifacts_found_once wellNamed found
  exact ⟨wellNamed, found, below, perm, once, complete⟩

end TestImpact.Artifact
