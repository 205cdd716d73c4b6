import TestImpact.Proofs.Artifact.Search
import TestImpact.Proofs.Files.Stored

namespace TestImpact

open Files Text.Utf8

def Files.Path.below (p : Path) (names : Location) : Path := names.foldl Path.child p

@[simp] theorem Files.Path.below_cons (p : Path) (name : Name) (names : Location) :
    p.below (name :: names) = (p.child name).below names := rfl

namespace Artifact

variable {t : FileTree} {kind : Kind} {listed : List Location} {d : Location} {p : Path}
  {name : Name}

def Search.prepend (found : List Path) (s : Search) : Search :=
  { s with artifacts := found ++ s.artifacts }

theorem search_append (t : FileTree) (kind : Kind) (listed : List Location) (ps qs : List Path) :
    search t kind listed (ps ++ qs) = search t kind listed ps >>= fun s =>
      (search t kind s.listed qs).map (Search.prepend s.artifacts) := by
  fun_induction search t kind listed ps with
  | case1 listed =>
    cases rest : search t kind listed qs <;> simp [rest, Except.map, Search.prepend]
  | case2 listed p more cause failed =>
    simp [search, failed]
  | case3 listed p more place came directory known ih =>
    simp [search, came, directory, known, ih]
  | case4 listed p more place came directory unknown _ cause failed =>
    simp [search, came, directory, unknown, failed]
  | case5 listed p more place came directory unknown _ names listing ih =>
    rw [List.append_assoc] at ih
    simp [search, came, directory, unknown, listing, ih]
  | case6 listed p more place came other covered ih =>
    simp only [List.cons_append, search, came, other, dite_false, covered, if_true, ih]
    cases search t kind listed more with
    | error cause => rfl
    | ok s =>
      cases rest : search t kind s.listed qs <;>
        simp [rest, Except.map, Search.add, Search.prepend]
  | case7 listed p more place came other uncovered ih =>
    simp [search, came, other, uncovered, ih]

def Apart (d d' : Location) : Prop := ¬ d <+: d' ∧ ¬ d' <+: d

structure IsArtifactAt (t : FileTree) (kind : Kind) (place : Location) : Prop where
  solid : ∃ n, t.node? place = some n ∧ n ≠ .directory
  named : ∃ name, place.getLast? = some name ∧ kind.names name

/-- The artifacts at a place and below it, by the names that lead there from the place, in the order
    of these names' bytes. -/
structure Listing (t : FileTree) (kind : Kind) (place : Location) (listing : List Location) :
    Prop where
  mem_iff : ∀ names, names ∈ listing ↔ IsArtifactAt t kind (place ++ names)
  ascending : listing.Pairwise (· < ·)

theorem IsArtifactAt.there {place : Location} (artifact : IsArtifactAt t kind place) :
    (t.node? place).isSome := by
  obtain ⟨n, found, -⟩ := artifact.solid
  rw [found]
  rfl

theorem not_isArtifactAt_directory (directory : t.node? d = some .directory) :
    ¬ IsArtifactAt t kind d := by
  rintro ⟨⟨n, found, other⟩, -⟩
  cases directory.symm.trans found
  exact other rfl

theorem listing_of_entry (stored : t.Stored) (there : (t.node? (d ++ [name])).isSome)
    (other : t.node? (d ++ [name]) ≠ some .directory) :
    Listing t kind (d ++ [name]) (if kind.names name then [[]] else []) where
  mem_iff names := by
    by_cases here : names = []
    · obtain ⟨n, found⟩ := Option.isSome_iff_exists.mp there
      have artifact : IsArtifactAt t kind (d ++ [name]) ↔ kind.names name := by
        constructor
        · rintro ⟨-, last, same, named⟩
          simp only [List.getLast?_concat, Option.some.injEq] at same
          rwa [same]
        · exact fun named => ⟨⟨n, found, fun same => other (same ▸ found)⟩, name, by simp, named⟩
      subst here
      rw [List.append_nil, artifact]
      split <;> simp_all
    · constructor
      · intro member
        split at member <;> simp [here] at member
      · exact fun artifact => absurd (stored.directory here artifact.there) other
  ascending := by split <;> simp

theorem listing_of_directory (stored : t.Stored) (directory : t.node? d = some .directory)
    {below : Name → List Location}
    (each : ∀ name ∈ t.names d, Listing t kind (d ++ [name]) (below name)) :
    Listing t kind d ((t.names d).flatMap fun name => (below name).map (name :: ·)) where
  mem_iff names := by
    cases names with
    | nil =>
      rw [List.append_nil]
      exact iff_of_false (by simp) (not_isArtifactAt_directory directory)
    | cons name rest =>
      have split : d ++ name :: rest = (d ++ [name]) ++ rest := by simp
      simp only [List.mem_flatMap, List.mem_map, List.cons.injEq, exists_eq_right_right, split]
      constructor
      · rintro ⟨listed, member⟩
        exact ((each name listed).mem_iff rest).mp member
      · intro artifact
        have listed := FileTree.mem_names_iff.mpr (stored.isSome_above artifact.there)
        exact ⟨listed, ((each name listed).mem_iff rest).mpr artifact⟩
  ascending := by
    refine List.pairwise_flatMap.mpr ⟨fun name listed => ?_, ?_⟩
    · exact List.pairwise_map.mpr ((each name listed).ascending.imp fun less =>
        List.cons_lt_cons_iff.mpr (.inr ⟨rfl, less⟩))
    · refine (t.pairwise_names d).imp fun less names first names' second => ?_
      obtain ⟨_, -, rfl⟩ := List.mem_map.mp first
      obtain ⟨_, -, rfl⟩ := List.mem_map.mp second
      exact List.cons_lt_cons_iff.mpr (.inl less)

/-- From a place on, which a path leads to, the system lets a search through: no path is too long for
    it as it is put together, no canonical path of a directory is, and each directory is open. -/
structure Within (t : FileTree) (visit : Location × Path) : Prop where
  joined : ∀ names, (t.node? (visit.1 ++ names)).isSome →
    (visit.2.below names).bytes.length < FileTree.pathLimit
  straight : t.node? visit.1 = some .directory → t.Straight visit.2
  canonical : ∀ names, names ≠ [] → t.node? (visit.1 ++ names) = some .directory →
    FileTree.reach (visit.1 ++ names) < FileTree.pathLimit
  opened : ∀ names, t.node? (visit.1 ++ names) = some .directory →
    t.closed.get? (visit.1 ++ names) = none

theorem forall_below_iff (t : FileTree) (d : Location) (holds : Location → Prop) :
    (∀ place ∈ [] :: t.nodes.keys, d <+: place → (t.node? place).isSome →
      holds (place.drop d.length)) ↔ ∀ names, (t.node? (d ++ names)).isSome → holds names := by
  constructor
  · intro each names there
    obtain ⟨n, found⟩ := Option.isSome_iff_exists.mp there
    simpa using each _ (mem_locations found) (List.prefix_append ..) there
  · rintro below place - ⟨names, rfl⟩ there
    simpa using below names there

theorem within_iff {visit : Location × Path} : Within t visit ↔
    (t.node? visit.1 = some .directory → t.Straight visit.2) ∧
      ∀ names, (t.node? (visit.1 ++ names)).isSome →
        (visit.2.below names).bytes.length < FileTree.pathLimit ∧
        (t.node? (visit.1 ++ names) = some .directory →
          (names ≠ [] → FileTree.reach (visit.1 ++ names) < FileTree.pathLimit) ∧
          t.closed.get? (visit.1 ++ names) = none) := by
  constructor
  · rintro ⟨joined, straight, canonical, opened⟩
    exact ⟨straight, fun names there => ⟨joined names there, fun directory =>
      ⟨fun some => canonical names some directory, opened names directory⟩⟩⟩
  · rintro ⟨straight, each⟩
    have there {names : Location} (directory : t.node? (visit.1 ++ names) = some .directory) :
        (t.node? (visit.1 ++ names)).isSome := by
      rw [directory]
      rfl
    exact ⟨fun names there => (each names there).1, straight,
      fun names some directory => ((each names (there directory)).2 directory).1 some,
      fun names directory => ((each names (there directory)).2 directory).2⟩

instance (t : FileTree) (visit : Location × Path) : Decidable (Within t visit) :=
  decidable_of_iff _ ((and_congr_right fun _ => forall_below_iff t visit.1 _).trans within_iff.symm)

def Fresh (place : Location) (listed : List Location) : Prop := ∀ d ∈ listed, ¬ place <+: d

/-- A search for a path finds the listed artifacts, unless it went through the place before, and
    goes no further than through the place. -/
def Searches (t : FileTree) (kind : Kind) (visit : Location × Path) (listing : List Location) :
    Prop :=
  ∀ listed, Fresh visit.1 listed → ∃ new, (∀ d ∈ new, visit.1 <+: d) ∧
    search t kind listed [visit.2] = .ok ⟨listing.map visit.2.below, new ++ listed⟩

/-- Why the system stops a search at a place that it comes to by a path. -/
inductive Hinders (t : FileTree) (place : Location) (q : Path) : Cause → Prop
  | long (long : FileTree.pathLimit ≤ q.bytes.length) : Hinders t place q .nameTooLong
  | strayed (directory : t.node? place = some .directory) (strays : ¬ t.Straight q) :
      Hinders t place q .nameTooLong
  | closed {cause : Cause} (directory : t.node? place = some .directory)
      (closed : t.closed.get? place = some cause) : Hinders t place q cause

/-- What was begun at some paths fails on one of them, or on the path of something below. -/
def Hindered {α : Type} (t : FileTree) (visits : List (Location × Path)) (ended : Except Cause α) :
    Prop :=
  ∃ v ∈ visits, ∃ names cause, (t.node? (v.1 ++ names)).isSome ∧
    Hinders t (v.1 ++ names) (v.2.below names) cause ∧
    ended = .error (.located (v.2.below names).display cause)

theorem Fresh.append {place : Location} {new : List Location} (fresh : Fresh place listed)
    (apart : ∀ d ∈ new, ¬ place <+: d) : Fresh place (new ++ listed) := by
  intro d member
  rcases List.mem_append.mp member with member | member
  · exact apart d member
  · exact fresh d member

theorem Fresh.after {v w : Location} {new : List Location} (fresh : Fresh w listed)
    (apart : Apart v w) (inside : ∀ d ∈ new, v <+: d) : Fresh w (new ++ listed) :=
  fresh.append fun d member below =>
    (List.prefix_or_prefix_of_prefix (inside d member) below).elim apart.1 apart.2

theorem Searches.all {visits : List (Location × Path)} {below : Location × Path → List Location}
    (each : ∀ v ∈ visits, Searches t kind v (below v))
    (apart : visits.Pairwise fun v w => Apart v.1 w.1) (fresh : ∀ v ∈ visits, Fresh v.1 listed) :
    ∃ new, (∀ d ∈ new, ∃ v ∈ visits, v.1 <+: d) ∧
      search t kind listed (visits.map Prod.snd) =
        .ok ⟨visits.flatMap fun v => (below v).map v.2.below, new ++ listed⟩ := by
  induction visits generalizing listed with
  | nil => exact ⟨[], nofun, by simp [search]⟩
  | cons v visits ih =>
    obtain ⟨first, apart⟩ := List.pairwise_cons.mp apart
    obtain ⟨new, inside, found⟩ := each v List.mem_cons_self listed (fresh v List.mem_cons_self)
    obtain ⟨new', inside', found'⟩ := ih (fun w member => each w (List.mem_cons_of_mem _ member))
      apart fun w member => (fresh w (List.mem_cons_of_mem _ member)).after (first w member) inside
    refine ⟨new' ++ new, fun d member => ?_, ?_⟩
    · rcases List.mem_append.mp member with member | member
      · obtain ⟨w, there, below⟩ := inside' d member
        exact ⟨w, List.mem_cons_of_mem _ there, below⟩
      · exact ⟨v, List.mem_cons_self, inside d member⟩
    · rw [List.map_cons, ← List.singleton_append, search_append, found, ok_bind, found']
      simp [Except.map, Search.prepend]

def entryVisits (t : FileTree) (visit : Location × Path) : List (Location × Path) :=
  (t.names visit.1).map fun name => (visit.1 ++ [name], visit.2.child name)

theorem apart_entryVisits (t : FileTree) (visit : Location × Path) :
    (entryVisits t visit).Pairwise fun v w => Apart v.1 w.1 := by
  refine List.pairwise_map.mpr ((t.nodup_names visit.1).imp fun other => ?_)
  simp [Apart, other, Ne.symm other]

theorem Fresh.entries {v : Location × Path} (fresh : Fresh d listed)
    (member : v ∈ entryVisits t (d, p)) : Fresh v.1 (d :: listed) := by
  obtain ⟨name, -, rfl⟩ := List.mem_map.mp member
  intro place listed below
  rcases List.mem_cons.mp listed with rfl | listed
  · simpa using below.length_le
  · exact fresh place listed ((List.prefix_append ..).trans below)

theorem search_directory (visits : Visits t p d) (opened : t.closed.get? d = none)
    (fresh : Fresh d listed) :
    search t kind listed [p] =
      search t kind (d :: listed) ((entryVisits t (d, p)).map Prod.snd) := by
  have unlisted : d ∉ listed := fun member => fresh d member List.prefix_rfl
  simp [search, visits.1, visits.2, unlisted, FileTree.list_of_open opened, entryVisits,
    Function.comp_def]

theorem straight_entry_iff (stored : t.Stored) (enters : Enters t p d) (straight : t.Straight p)
    (directory : t.node? (d ++ [name]) = some .directory) :
    t.Straight (p.child name) ↔ FileTree.reach (d ++ [name]) < FileTree.pathLimit := by
  have proper := (stored.storable (by rw [directory]; rfl)).toProper
  exact FileTree.straight_child_iff enters.1 enters.2 proper directory nofun straight

theorem Within.entry (within : Within t (d, p)) (stored : t.Stored) (enters : Enters t p d)
    (name : Name) : Within t (d ++ [name], p.child name) where
  joined names there := within.joined (name :: names) (by simpa using there)
  straight directory := by
    rw [straight_entry_iff stored enters (within.straight enters.2) directory]
    exact within.canonical [name] (List.cons_ne_nil _ _) directory
  canonical names _ directory := by
    simpa using within.canonical (name :: names) (List.cons_ne_nil _ _) (by simpa using directory)
  opened names directory := by
    simpa using within.opened (name :: names) (by simpa using directory)

theorem within_entry (stored : t.Stored)
    (other : t.node? (d ++ [name]) ≠ some .directory)
    (short : p.bytes.length < FileTree.pathLimit) : Within t (d ++ [name], p) := by
  have alone {names : Location} (there : (t.node? ((d ++ [name]) ++ names)).isSome) :
      names = [] := by
    by_contra below
    exact other (stored.directory below there)
  refine within_iff.mpr ⟨fun directory => absurd directory other, fun names there => ?_⟩
  obtain rfl := alone there
  rw [List.append_nil]
  exact ⟨short, fun directory => absurd directory other⟩

theorem within_of_entries (stored : t.Stored) (enters : Enters t p d) (straight : t.Straight p)
    (opened : t.closed.get? d = none) (each : ∀ v ∈ entryVisits t (d, p), Within t v) :
    Within t (d, p) := by
  refine within_iff.mpr ⟨fun _ => straight, fun names there => ?_⟩
  cases names with
  | nil =>
    obtain ⟨sane, -⟩ := (FileTree.resolve_directory_iff enters.2).mp enters.1
    rw [List.append_nil]
    exact ⟨(FileTree.checkPath_ok_iff.mp sane).2.2, fun _ => ⟨fun some => absurd rfl some, opened⟩⟩
  | cons name rest =>
    have split : d ++ name :: rest = (d ++ [name]) ++ rest := by simp
    dsimp only at there ⊢
    rw [split] at there ⊢
    have entry := FileTree.mem_names_iff.mpr (stored.isSome_above there)
    have within := each _ (List.mem_map_of_mem entry)
    refine ⟨within.joined rest there, fun directory => ⟨fun _ => ?_, within.opened rest directory⟩⟩
    by_cases here : rest = []
    · subst here
      rw [List.append_nil] at directory ⊢
      exact (straight_entry_iff stored enters straight directory).mp (within.straight directory)
    · exact within.canonical rest here directory

/-- Where the system lets it through from a place on, a search for the place finds what is there and
    below, in order; otherwise it fails where the system stops it. -/
structure Settled (t : FileTree) (kind : Kind) (visit : Location × Path) : Prop where
  within : Within t visit →
    ∃ listing, Listing t kind visit.1 listing ∧ Searches t kind visit listing
  beyond : ¬ Within t visit → ∀ listed, Fresh visit.1 listed →
    Hindered t [visit] (search t kind listed [visit.2])

theorem Settled.listings {visits : List (Location × Path)}
    (each : ∀ v ∈ visits, Settled t kind v) (within : ∀ v ∈ visits, Within t v) :
    ∃ below : Location × Path → List Location,
      ∀ v ∈ visits, Listing t kind v.1 (below v) ∧ Searches t kind v (below v) := by
  have every (v : Location × Path) (member : v ∈ visits) := (each v member).within (within v member)
  choose! below every using every
  exact ⟨below, every⟩

theorem Settled.some_beyond {visits : List (Location × Path)}
    (each : ∀ v ∈ visits, Settled t kind v) (beyond : ∃ v ∈ visits, ¬ Within t v)
    (apart : visits.Pairwise fun v w => Apart v.1 w.1) (fresh : ∀ v ∈ visits, Fresh v.1 listed) :
    Hindered t visits (search t kind listed (visits.map Prod.snd)) := by
  induction visits generalizing listed with
  | nil => simp at beyond
  | cons v visits ih =>
    obtain ⟨first, apart⟩ := List.pairwise_cons.mp apart
    have here := each v List.mem_cons_self
    have split : (v :: visits).map Prod.snd = [v.2] ++ visits.map Prod.snd := rfl
    rw [split, search_append]
    by_cases within : Within t v
    · obtain ⟨listing, -, searches⟩ := here.within within
      obtain ⟨new, inside, found⟩ := searches listed (fresh v List.mem_cons_self)
      obtain ⟨w, member, names, cause, there, hinders, failed⟩ :=
        ih (fun w member => each w (List.mem_cons_of_mem _ member))
          (by simpa [within] using beyond) apart fun w member =>
            (fresh w (List.mem_cons_of_mem _ member)).after (first w member) inside
      exact ⟨w, List.mem_cons_of_mem _ member, names, cause, there, hinders,
        by rw [found, ok_bind, failed]; rfl⟩
    · obtain ⟨w, member, names, cause, there, hinders, failed⟩ :=
        here.beyond within listed (fresh v List.mem_cons_self)
      cases List.mem_singleton.mp member
      exact ⟨v, List.mem_cons_self, names, cause, there, hinders, by rw [failed]; rfl⟩

theorem settled_entry (stored : t.Stored) (linkless : t.Linkless) (enters : Enters t p d)
    (there : (t.node? (d ++ [name])).isSome)
    (inner : Enters t (p.child name) (d ++ [name]) → Settled t kind (d ++ [name], p.child name)) :
    Settled t kind (d ++ [name], p.child name) := by
  have resolved := FileTree.resolve_child stored linkless enters.1 there
  by_cases short : (p.child name).bytes.length < FileTree.pathLimit
  · rw [if_pos short] at resolved
    by_cases directory : t.node? (d ++ [name]) = some .directory
    · exact inner ⟨resolved, directory⟩
    · have within := within_entry stored directory short
      refine ⟨fun _ => ⟨_, listing_of_entry stored there directory, fun listed _ => ?_⟩,
        fun beyond => absurd within beyond⟩
      have covered : kind.covers (p.child name) = kind.names name :=
        covers_child enters.bytes_ne_nil (stored.storable there).toProper
      refine ⟨[], nofun, ?_⟩
      cases named : kind.names name <;>
        simp [search, placeOf_eq resolved, directory, covered, named, Except.map, Search.add,
          Path.below]
  · rw [if_neg short] at resolved
    have there' : (t.node? ((d ++ [name]) ++ [])).isSome := by rwa [List.append_nil]
    refine ⟨fun within => absurd (within.joined [] there') short, fun _ listed _ => ?_⟩
    exact ⟨_, List.mem_singleton.mpr rfl, [], .nameTooLong, there', .long (Nat.le_of_not_lt short),
      (Stops.lost resolved).search⟩

theorem Hindered.of_entries {α : Type} {ended : Except Cause α}
    (hindered : Hindered t (entryVisits t (d, p)) ended) : Hindered t [(d, p)] ended := by
  obtain ⟨v, member, names, cause, there, hinders, failed⟩ := hindered
  obtain ⟨name, -, rfl⟩ := List.mem_map.mp member
  have split : d ++ name :: names = (d ++ [name]) ++ names := by simp
  exact ⟨_, List.mem_singleton.mpr rfl, name :: names, cause, by rwa [split], by rwa [split],
    failed⟩

theorem Searches.directory {below : Location × Path → List Location}
    (visits : Visits t p d) (opened : t.closed.get? d = none)
    (each : ∀ v ∈ entryVisits t (d, p), Searches t kind v (below v)) :
    Searches t kind (d, p)
      ((t.names d).flatMap fun name => (below (d ++ [name], p.child name)).map (name :: ·)) := by
  intro listed fresh
  obtain ⟨new, inside, found⟩ :=
    Searches.all each (apart_entryVisits t (d, p)) fun v => fresh.entries
  refine ⟨new ++ [d], fun d' member => ?_, ?_⟩
  · rcases List.mem_append.mp member with member | member
    · obtain ⟨v, entry, under⟩ := inside d' member
      obtain ⟨name, -, rfl⟩ := List.mem_map.mp entry
      exact (List.prefix_append ..).trans under
    · rw [List.mem_singleton.mp member]
  · rw [search_directory visits opened fresh, found]
    simp [entryVisits, List.flatMap_map, List.map_flatMap, Function.comp_def]

theorem hindered_of_entries (stored : t.Stored) (enters : Enters t p d)
    (each : ∀ v ∈ entryVisits t (d, p), Settled t kind v) (beyond : ¬ Within t (d, p))
    (fresh : Fresh d listed) : Hindered t [(d, p)] (search t kind listed [p]) := by
  have directory : t.node? (d ++ []) = some .directory := by rw [List.append_nil, enters.2]
  have there : (t.node? (d ++ [])).isSome := by rw [directory]; rfl
  by_cases straight : t.Straight p
  case neg =>
    exact ⟨_, List.mem_singleton.mpr rfl, [], _, there, .strayed directory straight,
      (Stops.strayed enters straight).search⟩
  cases closed : t.closed.get? d with
  | some cause =>
    have unlisted : d ∉ listed := fun member => fresh d member List.prefix_rfl
    exact ⟨_, List.mem_singleton.mpr rfl, [], cause, there,
      .closed directory (by rwa [List.append_nil]),
      (Stops.closed (enters.visits straight) unlisted (FileTree.list_of_closed closed)).search⟩
  | none =>
    have beyond' : ∃ v ∈ entryVisits t (d, p), ¬ Within t v := by
      by_contra none
      push Not at none
      exact beyond (within_of_entries stored enters straight closed none)
    rw [search_directory (enters.visits straight) closed fresh]
    exact .of_entries (Settled.some_beyond each beyond' (apart_entryVisits t (d, p))
      fun v => fresh.entries)

theorem settled_of_entries (stored : t.Stored) (enters : Enters t p d)
    (each : ∀ v ∈ entryVisits t (d, p), Settled t kind v) : Settled t kind (d, p) where
  within within := by
    have within' : ∀ v ∈ entryVisits t (d, p), Within t v := by
      intro v member
      obtain ⟨name, -, rfl⟩ := List.mem_map.mp member
      exact within.entry stored enters name
    have opened := within.opened [] (by simpa using enters.2)
    rw [List.append_nil] at opened
    obtain ⟨below, every⟩ := Settled.listings each within'
    refine ⟨_, listing_of_directory stored enters.2 fun name member =>
      (every _ (List.mem_map_of_mem member)).1, ?_⟩
    exact Searches.directory (enters.visits (within.straight enters.2)) opened
      fun v member => (every v member).2
  beyond beyond _ fresh := hindered_of_entries stored enters each beyond fresh

/-- By induction on how far the tree goes down from the place. -/
theorem settled (kind : Kind) (stored : t.Stored) (linkless : t.Linkless) (enters : Enters t p d)
    {depth : Nat} (deep : ∀ names, (t.node? (d ++ names)).isSome → names.length < depth) :
    Settled t kind (d, p) := by
  induction depth generalizing d p with
  | zero => exact absurd (deep [] (by simp [enters.2])) (Nat.not_lt_zero _)
  | succ depth ih =>
    refine settled_of_entries stored enters fun v member => ?_
    obtain ⟨name, listed, rfl⟩ := List.mem_map.mp member
    refine settled_entry stored linkless enters (FileTree.mem_names_iff.mp listed) fun inner => ?_
    exact ih inner fun names there =>
      Nat.lt_of_succ_lt_succ (deep (name :: names) (by simpa using there))

end Artifact

namespace Artifact

def lone : FileTree where
  nodes :=
    { entries :=
        [([encode "d"], .directory), ([encode "d", encode "test-list-1.json"], .file [])]
      distinct := by decide +kernel }

/-- The directory with slashes behind it, with which the path still leads there. -/
def slashed (slashes : Nat) : Path := ⟨encode "d" ++ List.replicate slashes slash⟩

end Artifact

end TestImpact
