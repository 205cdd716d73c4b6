import TestImpact.Proofs.Action.Outcome
import TestImpact.Proofs.Artifact.Listing

namespace TestImpact.Artifact

open Files Text.Utf8

variable {t : FileTree} {kind : Kind}

def directories (t : FileTree) : Finset Location := (unlisted t []).toFinset

theorem mem_directories_iff {d : Location} : d ∈ directories t ↔ t.node? d = some .directory := by
  simp only [directories, unlisted, List.mem_toFinset, List.mem_filter, List.not_mem_nil,
    not_false_eq_true, and_true, decide_eq_true_eq]
  exact and_iff_right_of_imp mem_locations

/-- How far a tour through directories has come: the directories that it has met, those that it has
    listed, each with the path on which it did, and the artifacts. -/
structure Tour where
  met : List Location := []
  visits : List (Location × Path) := []
  artifacts : List Path := []

namespace Tour

def meet (place : Location) (s : Tour) : Bool × Tour :=
  if s.met.contains place then (false, s) else (true, { s with met := place :: s.met })

/-- The paths of what is in a directory. A tour has no other way to them, so that every listing is
    put down, also one that fails. -/
def list (t : FileTree) (visit : Location × Path) : Action Cause Tour (List Path) := do
  .change fun s => { s with visits := s.visits ++ [visit] }
  match t.list visit.1 with
  | .error cause => .fail (.located visit.2.display cause)
  | .ok names => return names.map visit.2.child

def examine (t : FileTree) (kind : Kind) (enter : Location × Path → Action Cause Tour Unit)
    (p : Path) : Action Cause Tour Unit :=
  match placeOf t p with
  | .error cause => .fail (.located p.display cause)
  | .ok place =>
    if t.node? place = some .directory then enter (place, p)
    else if kind.covers p then .change fun s => { s with artifacts := s.artifacts ++ [p] }
    else .done ()

/-- Sees to the entries of a directory that is new. At most so many directories are entered from one
    another, and to enter one more unwinds. -/
def enter (t : FileTree) (kind : Kind) : Nat → Location × Path → Action Cause Tour Unit
  | 0, _ => .unwind
  | depth + 1, visit => do
    if ← .step (meet visit.1) then
      (← list t visit).forM (examine t kind (enter t kind depth))

def collect (t : FileTree) (kind : Kind) (depth : Nat) (paths : List Path) :
    Action Cause Tour (List Path) := do
  paths.forM (examine t kind (enter t kind depth))
  .look artifacts

def visiting (visit : Location × Path) (s : Tour) : Tour :=
  { s with met := visit.1 :: s.met, visits := s.visits ++ [visit] }

variable {depth : Nat} {visit : Location × Path} {p : Path} {s : Tour}

theorem outcome_enter_met (known : visit.1 ∈ s.met) :
    (enter t kind (depth + 1) visit).outcome s = (.ok (), s) := by
  simp [enter, meet, known]

theorem outcome_enter_new {names : List Name} (new : visit.1 ∉ s.met)
    (listing : t.list visit.1 = .ok names) :
    (enter t kind (depth + 1) visit).outcome s =
      ((entries t visit).forM (examine t kind (enter t kind depth))).outcome
        (s.visiting visit) := by
  cases FileTree.names_of_list listing
  simp [enter, meet, new, list, listing, visiting, entries]

theorem outcome_enter_closed {cause : Cause} (new : visit.1 ∉ s.met)
    (closed : t.list visit.1 = .error cause) :
    (enter t kind (depth + 1) visit).outcome s =
      (.error (.failed (.located visit.2.display cause)), s.visiting visit) := by
  simp [enter, meet, new, list, closed, visiting]

structure Orderly (t : FileTree) (s : Tour) : Prop where
  met : s.met = (s.visits.map Prod.fst).reverse
  once : (s.visits.map Prod.fst).Nodup
  entered : ∀ visit ∈ s.visits, Enters t visit.2 visit.1

theorem Orderly.start (t : FileTree) : Orderly t {} := ⟨rfl, List.nodup_nil, nofun⟩

theorem Orderly.visiting (orderly : Orderly t s) (enters : Enters t visit.2 visit.1)
    (new : visit.1 ∉ s.met) : Orderly t (s.visiting visit) where
  met := by simp [Tour.visiting, orderly.met]
  once := by
    rw [orderly.met, List.mem_reverse] at new
    simpa [Tour.visiting] using orderly.once.concat new
  entered v member := by
    rcases List.mem_append.mp member with member | member
    · exact orderly.entered v member
    · rw [List.mem_singleton.mp member]
      exact enters

theorem examine_keeps {enter : Location × Path → Action Cause Tour Unit}
    (keeps : ∀ visit, Visits t visit.2 visit.1 → Orderly t ((enter visit).outcome s).2)
    (orderly : Orderly t s) : Orderly t ((examine t kind enter p).outcome s).2 := by
  unfold examine
  cases came : placeOf t p with
  | error cause => exact orderly
  | ok place =>
    by_cases directory : t.node? place = some .directory
    · simp only [if_pos directory]
      exact keeps (place, p) ⟨came, directory⟩
    · simp only [if_neg directory]
      split
      · exact ⟨orderly.met, orderly.once, orderly.entered⟩
      · exact orderly

theorem enter_keeps (visits : Visits t visit.2 visit.1) (orderly : Orderly t s) :
    Orderly t ((enter t kind depth visit).outcome s).2 := by
  induction depth generalizing visit s with
  | zero => exact orderly
  | succ depth ih =>
    by_cases known : visit.1 ∈ s.met
    · rwa [outcome_enter_met known]
    · have further := orderly.visiting visits.enters known
      cases listing : t.list visit.1 with
      | error cause => rwa [outcome_enter_closed known listing]
      | ok names =>
        rw [outcome_enter_new known listing]
        exact Action.forM_keeps
          (fun p _ s orderly => examine_keeps (fun v visits => ih visits orderly) orderly) further

theorem Orderly.length_visits_le (orderly : Orderly t s) :
    s.visits.length ≤ (directories t).card := by
  have within : (s.visits.map Prod.fst).toFinset ⊆ directories t := by
    intro d member
    obtain ⟨visit, listed, rfl⟩ := List.mem_map.mp (List.mem_toFinset.mp member)
    exact mem_directories_iff.mpr (orderly.entered visit listed).2
  calc s.visits.length = (s.visits.map Prod.fst).toFinset.card := by
        rw [List.toFinset_card_of_nodup orderly.once, List.length_map]
    _ ≤ (directories t).card := Finset.card_le_card within

end Tour

def unmet (t : FileTree) (met : List Location) : Finset Location := directories t \ met.toFinset

theorem unmet_cons (t : FileTree) (d : Location) (met : List Location) :
    unmet t (d :: met) = (unmet t met).erase d := by
  rw [unmet, List.toFinset_cons, Finset.sdiff_insert, unmet]

theorem card_unmet_le {met met' : List Location} (more : met ⊆ met') :
    (unmet t met').card ≤ (unmet t met).card := by
  have within : met.toFinset ⊆ met'.toFinset := fun d member =>
    List.mem_toFinset.mpr (more (List.mem_toFinset.mp member))
  exact Finset.card_le_card (Finset.sdiff_subset_sdiff (Finset.Subset.refl _) within)

theorem listed_subset {listed : List Location} {paths : List Path} {r : Search}
    (ended : search t kind listed paths = .ok r) : listed ⊆ r.listed := by
  fun_induction search t kind listed paths generalizing r with
  | case1 =>
    cases ended
    exact List.Subset.refl _
  | case2 => cases ended
  | case3 _ _ _ _ _ _ _ ih => exact ih ended
  | case4 => cases ended
  | case5 _ _ _ _ _ _ _ _ _ _ ih => exact List.subset_of_cons_subset (ih ended)
  | case6 listed p more _ _ _ _ ih =>
    cases rest : search t kind listed more with
    | error cause => simp [rest, Except.map] at ended
    | ok r' =>
      simp only [rest, Except.map, Except.ok.injEq] at ended
      subst ended
      have kept : listed ⊆ r'.listed := ih rest
      exact kept
  | case7 _ _ _ _ _ _ _ ih => exact ih ended

namespace Tour

variable {depth : Nat} {visit : Location × Path} {p : Path} {s : Tour}

/-- A part of a tour from `s` ends as a search does for which the directories that `s` has met are
    listed. -/
def Agrees (s : Tour) (ended : Except (Halt Cause) Unit × Tour) : Except Cause Search → Prop
  | .ok r => ∃ visits, ended = (.ok (), ⟨r.listed, visits, s.artifacts ++ r.artifacts⟩)
  | .error cause => ∃ s', ended = (.error (.failed cause), s')

theorem forM_agrees {f : Path → Action Cause Tour Unit} {room : Nat} {paths : List Path}
    (each : ∀ p s, (unmet t s.met).card < room →
      Agrees s ((f p).outcome s) (search t kind s.met [p]))
    (fits : (unmet t s.met).card < room) :
    Agrees s ((paths.forM f).outcome s) (search t kind s.met paths) := by
  induction paths generalizing s with
  | nil =>
    rw [search]
    exact ⟨s.visits, by simp [List.forM]⟩
  | cons p paths ih =>
    have here := each p s fits
    rw [← List.singleton_append, search_append, List.singleton_append, Action.outcome_forM_cons]
    cases first : search t kind s.met [p] with
    | error cause =>
      rw [first] at here
      obtain ⟨s', ran⟩ := here
      rw [ran]
      exact ⟨s', rfl⟩
    | ok r =>
      rw [first] at here
      obtain ⟨visits, ran⟩ := here
      rw [ran, ok_bind]
      have fits' : (unmet t r.listed).card < room :=
        Nat.lt_of_le_of_lt (card_unmet_le (listed_subset first)) fits
      have rest := ih (s := ⟨r.listed, visits, s.artifacts ++ r.artifacts⟩) fits'
      cases last : search t kind r.listed paths with
      | error cause =>
        rw [last] at rest
        exact rest
      | ok r' =>
        rw [last] at rest
        obtain ⟨visits', ran'⟩ := rest
        exact ⟨visits', ran'.trans (by rw [List.append_assoc]; rfl)⟩

theorem examine_agrees {enter : Location × Path → Action Cause Tour Unit}
    (goes : ∀ visit, Visits t visit.2 visit.1 →
      Agrees s ((enter visit).outcome s) (search t kind s.met [visit.2])) :
    Agrees s ((examine t kind enter p).outcome s) (search t kind s.met [p]) := by
  unfold examine
  cases came : placeOf t p with
  | error cause => simp [Agrees, search, came]
  | ok place =>
    by_cases directory : t.node? place = some .directory
    · simp only [if_pos directory]
      exact goes (place, p) ⟨came, directory⟩
    · cases covered : kind.covers p with
      | false =>
        have nothing : search t kind s.met [p] = .ok ⟨[], s.met⟩ := by
          simp [search, came, directory, covered]
        rw [nothing]
        exact ⟨s.visits, by simp [directory]⟩
      | true => simp [Agrees, search, came, directory, covered, Except.map, Search.add]

/-- Each directory that is entered from another is one less that is unmet, so the room for more of
    them lasts. -/
theorem enter_agrees (visits : Visits t visit.2 visit.1) (fits : (unmet t s.met).card < depth) :
    Agrees s ((enter t kind depth visit).outcome s) (search t kind s.met [visit.2]) := by
  induction depth generalizing visit s with
  | zero => exact absurd fits (Nat.not_lt_zero _)
  | succ depth ih =>
    by_cases known : visit.1 ∈ s.met
    · have nothing : search t kind s.met [visit.2] = .ok ⟨[], s.met⟩ := by
        simp [search, visits.1, visits.2, known]
      rw [outcome_enter_met known, nothing]
      exact ⟨s.visits, by simp⟩
    cases listing : t.list visit.1 with
    | error cause =>
      rw [outcome_enter_closed known listing, (Stops.closed visits known listing).search]
      exact ⟨_, rfl⟩
    | ok names =>
      have found : search t kind s.met [visit.2] =
          search t kind (s.visiting visit).met (entries t visit) := by
        cases FileTree.names_of_list listing
        simp [search, visits.1, visits.2, known, listing, entries, visiting]
      have fits' : (unmet t (s.visiting visit).met).card < depth := by
        have member : visit.1 ∈ unmet t s.met :=
          Finset.mem_sdiff.mpr ⟨mem_directories_iff.mpr visits.2, by simpa using known⟩
        have fewer := Finset.card_erase_lt_of_mem member
        rw [← unmet_cons] at fewer
        exact Nat.lt_of_lt_of_le fewer (Nat.le_of_lt_succ fits)
      rw [outcome_enter_new known listing, found]
      exact forM_agrees (fun p s fits => examine_agrees fun v visits => ih visits fits) fits'

theorem collect_agrees (kind : Kind) (paths : List Path)
    (fits : (directories t).card < depth) :
    Agrees {} ((paths.forM (examine t kind (enter t kind depth))).outcome {})
      (search t kind [] paths) := by
  have fits : (unmet t ({} : Tour).met).card < depth := by simpa [unmet] using fits
  exact forM_agrees (fun p s fits => examine_agrees fun v visits => enter_agrees visits fits) fits

theorem outcome_collect {paths : List Path} (fits : (directories t).card < depth) :
    (collect t kind depth paths).outcome {} = ((find t kind paths).mapError .failed,
      ((paths.forM (examine t kind (enter t kind depth))).outcome {}).2) := by
  have agrees := collect_agrees kind paths fits
  rw [collect, Action.outcome_bind]
  unfold find
  cases ended : search t kind [] paths with
  | error cause =>
    rw [ended] at agrees
    obtain ⟨s, ran⟩ := agrees
    rw [ran]
    rfl
  | ok r =>
    rw [ended] at agrees
    obtain ⟨visits, ran⟩ := agrees
    rw [ran]
    simp [Except.map]

end Tour

/-- Wherever links lead, a tour with room for one more directory than there are does not unwind. What
    comes of it is what the search gives, and on the way to that, be it artifacts or a failure, each
    directory is listed at most once. -/
theorem directories_listed_once (t : FileTree) (kind : Kind) (paths : List Path) {depth : Nat}
    (room : (directories t).card < depth) :
    ∃ s : Tour,
      (Tour.collect t kind depth paths).outcome {} = ((find t kind paths).mapError .failed, s) ∧
      (∀ r, search t kind [] paths = .ok r → r.listed = (s.visits.map Prod.fst).reverse) ∧
      (∀ visit ∈ s.visits, Enters t visit.2 visit.1) ∧ (s.visits.map Prod.fst).Nodup ∧
      s.visits.length ≤ (directories t).card := by
  let walk := paths.forM (Tour.examine t kind (Tour.enter t kind depth))
  have orderly : Tour.Orderly t (walk.outcome {}).2 :=
    Action.forM_keeps (fun p _ s orderly =>
      Tour.examine_keeps (fun v visits => Tour.enter_keeps visits orderly) orderly) (.start t)
  refine ⟨(walk.outcome {}).2, Tour.outcome_collect room, fun r ended => ?_, orderly.entered,
    orderly.once, orderly.length_visits_le⟩
  have agrees := Tour.collect_agrees kind paths room
  rw [ended] at agrees
  obtain ⟨visits, ran⟩ := agrees
  have met : (walk.outcome {}).2.met = r.listed := by simp only [walk, ran]
  exact met.symm.trans orderly.met

def entangled : FileTree where
  nodes :=
    { entries :=
        [([encode "a"], .directory), ([encode "a", encode "over"], .link (.ofString "../b")),
          ([encode "a", encode "test-list-1.json"], .file []),
          ([encode "b"], .directory), ([encode "b", encode "back"], .link (.ofString "../a")),
          ([encode "b", encode "self"], .link (.ofString ".")),
          ([encode "b", encode "up"], .link (.ofString "/"))]
      distinct := by decide +kernel }

/-- All three directories are listed, also by a tour that fails in the end. -/
theorem entangled_listed_once :
    let artifacts := [Path.ofString "a/test-list-1.json"]
    let lost := Cause.located "gone" .notFound
    let collect := Tour.collect entangled .testList 4
    (directories entangled).card < 4 ∧
      (∃ s, (collect [.ofString "a", .ofString "b"]).outcome {} = (.ok artifacts, s) ∧
        (s.visits.map Prod.fst).Nodup ∧ s.visits.length ≤ (directories entangled).card) ∧
      ∃ s, (collect [.ofString "a", .ofString "gone"]).outcome {} = (.error (.failed lost), s) ∧
        s.visits.map Prod.snd = [.ofString "a", .ofString "a/over", .ofString "a/over/up"] ∧
        (s.visits.map Prod.fst).Nodup ∧ s.visits.length ≤ (directories entangled).card := by
  intro artifacts lost collect
  have room : (directories entangled).card < 4 := by decide +kernel
  have found : ((Tour.collect entangled .testList 4
      [.ofString "a", .ofString "b"]).outcome {}).1 = .ok [.ofString "a/test-list-1.json"] := by cbv
  have failed : ((Tour.collect entangled .testList 4 [.ofString "a", .ofString "gone"]).outcome
      {}).map id (fun s => s.visits.map Prod.snd) =
        (.error (.failed (.located "gone" .notFound)),
          [.ofString "a", .ofString "a/over", .ofString "a/over/up"]) := by cbv
  obtain ⟨s, ended, -, -, once, bounded⟩ := directories_listed_once entangled .testList
    [.ofString "a", .ofString "b"] room
  obtain ⟨s', ended', -, -, once', bounded'⟩ := directories_listed_once entangled .testList
    [.ofString "a", .ofString "gone"] room
  rw [ended] at found
  rw [ended'] at failed
  obtain ⟨failed, visits⟩ := Prod.mk.inj failed
  dsimp only [id] at found failed visits
  rw [found] at ended
  rw [failed] at ended'
  exact ⟨room, ⟨s, ended, once, bounded⟩, s', ended', visits, once', bounded'⟩

end TestImpact.Artifact
