import TestImpact.Proofs.Run.Plan
import TestImpact.Table

namespace TestImpact

/-- The elements of a list, each once, in the order in which they come first. -/
structure FirstSeen {α : Type} [DecidableEq α] (all firsts : List α) : Prop where
  distinct : firsts.Nodup
  mem_iff : ∀ a, a ∈ firsts ↔ a ∈ all
  in_order : firsts.Pairwise fun a b => all.idxOf a < all.idxOf b

namespace FirstSeen

variable {α : Type} [DecidableEq α] {all firsts : List α}

theorem nil : FirstSeen ([] : List α) [] := ⟨.nil, fun _ => .rfl, .nil⟩

theorem idxOf_concat (firstSeen : FirstSeen all firsts) (a : α) :
    firsts.Pairwise fun b c => (all ++ [a]).idxOf b < (all ++ [a]).idxOf c := by
  refine firstSeen.in_order.imp_of_mem fun {b c} hb hc before => ?_
  rw [List.idxOf_append_of_mem ((firstSeen.mem_iff b).mp hb),
    List.idxOf_append_of_mem ((firstSeen.mem_iff c).mp hc)]
  exact before

theorem concat_old (firstSeen : FirstSeen all firsts) {a : α} (old : a ∈ firsts) :
    FirstSeen (all ++ [a]) firsts where
  distinct := firstSeen.distinct
  mem_iff b := by
    have known : a ∈ all := (firstSeen.mem_iff a).mp old
    rw [firstSeen.mem_iff, List.mem_append, List.mem_singleton]
    constructor
    · exact .inl
    · rintro (member | rfl)
      · exact member
      · exact known
  in_order := firstSeen.idxOf_concat a

theorem concat_new (firstSeen : FirstSeen all firsts) {a : α} (new : a ∉ firsts) :
    FirstSeen (all ++ [a]) (firsts ++ [a]) where
  distinct := by
    refine List.nodup_append.mpr ⟨firstSeen.distinct, by simp, ?_⟩
    rintro b member c last rfl
    exact new (List.mem_singleton.mp last ▸ member)
  mem_iff b := by simp [firstSeen.mem_iff]
  in_order := by
    have unseen : a ∉ all := fun member => new ((firstSeen.mem_iff a).mpr member)
    refine List.pairwise_append.mpr
      ⟨firstSeen.idxOf_concat a, List.pairwise_singleton _ a, fun b member c last => ?_⟩
    rw [List.mem_singleton.mp last]
    have known : b ∈ all := (firstSeen.mem_iff b).mp member
    rw [List.idxOf_append_of_mem known, List.idxOf_append_of_notMem unseen]
    have := List.idxOf_lt_length_of_mem known
    omega

end FirstSeen

namespace Cluster

variable {clusters : List Cluster} {seen : List Candidate}

theorem ids_place (clusters : List Cluster) (c : Candidate) :
    (place clusters c).map Cluster.id =
      if c.cluster ∈ clusters.map Cluster.id then clusters.map Cluster.id
      else clusters.map Cluster.id ++ [c.cluster] := by
  induction clusters with
  | nil => simp [place]
  | cons k ks ih =>
    simp only [place]
    by_cases named : k.id = c.cluster
    · simp [named]
    · rw [if_neg named, List.map_cons, ih]
      by_cases later : c.cluster ∈ ks.map Cluster.id
      · simp [later]
      · simp [later, Ne.symm named]

theorem mem_place {c : Candidate} {k : Cluster} (distinct : (clusters.map Cluster.id).Nodup)
    (member : k ∈ place clusters c) :
    k ∈ clusters ∧ k.id ≠ c.cluster ∨
      ∃ before, k = ⟨c.cluster, before ++ [.ofCandidate c]⟩ ∧
        (⟨c.cluster, before⟩ ∈ clusters ∨ before = [] ∧ c.cluster ∉ clusters.map Cluster.id) := by
  induction clusters with
  | nil => exact .inr ⟨[], List.mem_singleton.mp member, .inr ⟨rfl, List.not_mem_nil⟩⟩
  | cons j ks ih =>
    obtain ⟨apart, distinct⟩ := List.nodup_cons.mp distinct
    simp only [place] at member
    by_cases named : j.id = c.cluster
    · rw [if_pos named] at member
      rcases List.mem_cons.mp member with rfl | member
      · exact .inr ⟨j.tests, by rw [← named], .inl (by rw [← named]; exact List.mem_cons_self)⟩
      · refine .inl ⟨List.mem_cons_of_mem j member, fun same => apart ?_⟩
        rw [named, ← same]
        exact List.mem_map_of_mem member
    · rw [if_neg named] at member
      rcases List.mem_cons.mp member with rfl | member
      · exact .inl ⟨List.mem_cons_self, named⟩
      · rcases ih distinct member with ⟨known, other⟩ | ⟨before, rfl, known | ⟨rfl, new⟩⟩
        · exact .inl ⟨List.mem_cons_of_mem j known, other⟩
        · exact .inr ⟨before, rfl, .inl (List.mem_cons_of_mem j known)⟩
        · refine .inr ⟨[], rfl, .inr ⟨rfl, fun member => ?_⟩⟩
          rcases List.mem_cons.mp member with same | later
          · exact named same.symm
          · exact new later

/-- The clusters of candidates: one for each id that is named, with the tests that name it. -/
structure Clustering (candidates : List Candidate) (clusters : List Cluster) : Prop where
  ids : FirstSeen (candidates.map Candidate.cluster) (clusters.map Cluster.id)
  tests_eq : ∀ k ∈ clusters,
    k.tests = (candidates.filter (·.cluster = k.id)).map PlannedTest.ofCandidate

namespace Clustering

theorem nil : Clustering [] [] := ⟨.nil, nofun⟩

theorem place (clustering : Clustering seen clusters) (c : Candidate) :
    Clustering (seen ++ [c]) (place clusters c) where
  ids := by
    rw [ids_place, List.map_append]
    split
    · exact clustering.ids.concat_old ‹_›
    · exact clustering.ids.concat_new ‹_›
  tests_eq k member := by
    rw [List.filter_append, List.map_append]
    rcases mem_place clustering.ids.distinct member with
      ⟨known, other⟩ | ⟨before, rfl, known | ⟨rfl, new⟩⟩
    · simp [clustering.tests_eq k known, Ne.symm other]
    · have earlier : before = (seen.filter (·.cluster = c.cluster)).map PlannedTest.ofCandidate :=
        clustering.tests_eq _ known
      simp [earlier]
    · have unnamed : seen.filter (·.cluster = c.cluster) = [] := by
        refine List.filter_eq_nil_iff.mpr fun d there same => new ?_
        rw [clustering.ids.mem_iff, ← of_decide_eq_true same]
        exact List.mem_map_of_mem there
      simp [unnamed]

theorem foldl (clustering : Clustering seen clusters) (candidates : List Candidate) :
    Clustering (seen ++ candidates) (candidates.foldl Cluster.place clusters) := by
  induction candidates generalizing seen clusters with
  | nil => simpa using clustering
  | cons c cs ih => simpa using ih (clustering.place c)

theorem tests_ne_nil (clustering : Clustering seen clusters) {k : Cluster} (member : k ∈ clusters) :
    k.tests ≠ [] := by
  have named : k.id ∈ seen.map Candidate.cluster :=
    (clustering.ids.mem_iff k.id).mp (List.mem_map_of_mem member)
  obtain ⟨c, there, same⟩ := List.mem_map.mp named
  have found : c ∈ seen.filter (·.cluster = k.id) :=
    List.mem_filter.mpr ⟨there, decide_eq_true same⟩
  rw [clustering.tests_eq k member]
  exact List.ne_nil_of_mem (List.mem_map_of_mem found)

end Clustering

theorem ofCandidates_clustering (candidates : List Candidate) :
    Clustering candidates (ofCandidates candidates) :=
  Clustering.nil.foldl candidates

theorem place_of_new {c : Candidate} (new : c.cluster ∉ clusters.map Cluster.id) :
    place clusters c = clusters ++ [⟨c.cluster, [.ofCandidate c]⟩] := by
  induction clusters with
  | nil => rfl
  | cons k ks ih =>
    obtain ⟨other, new⟩ := not_or.mp (mt List.mem_cons.mpr new)
    rw [place, if_neg (Ne.symm other), ih new, List.cons_append]

theorem place_of_idxOf? {c : Candidate} {n : Nat}
    (found : (clusters.map Cluster.id).idxOf? c.cluster = some n) :
    ∃ k, clusters[n]? = some k ∧
      place clusters c = clusters.set n { k with tests := k.tests ++ [.ofCandidate c] } := by
  induction clusters generalizing n with
  | nil => simp at found
  | cons k ks ih =>
    rw [List.map_cons, List.idxOf?_cons] at found
    by_cases named : k.id = c.cluster
    · obtain rfl : 0 = n := by simpa [named] using found
      exact ⟨k, rfl, by simp [place, named]⟩
    · obtain ⟨m, later, rfl⟩ : ∃ m, (ks.map Cluster.id).idxOf? c.cluster = some m ∧ m + 1 = n := by
        simpa [named] using found
      obtain ⟨k', there, placed⟩ := ih later
      exact ⟨k', by simpa using there, by simp [place, named, placed]⟩

/-- Clusters in the making, with the position of each by its id. -/
structure Draft where
  clusters : List Cluster := []
  slots : Table String Nat := {}

namespace Draft

def slot (d : Draft) (id : String) : Nat × Draft :=
  match d.slots.get? id with
  | some n => (n, d)
  | none =>
    let n := d.clusters.length
    (n, { clusters := d.clusters ++ [⟨id, []⟩], slots := d.slots.insert id n })

/-- Adds a test to the cluster at a position, if there is one. -/
def push? (d : Draft) (n : Nat) (t : PlannedTest) : Option Draft := do
  let k ← d.clusters[n]?
  return { d with clusters := d.clusters.set n { k with tests := k.tests ++ [t] } }

def add? (d : Draft) (c : Candidate) : Option Draft :=
  let (n, d) := d.slot c.cluster
  d.push? n (.ofCandidate c)

/-- The clusters of candidates by way of their positions. -/
def clusters? (candidates : List Candidate) : Option (List Cluster) :=
  (candidates.foldlM add? {}).map Draft.clusters

def Indexed (d : Draft) : Prop :=
  ∀ id, d.slots.get? id = (d.clusters.map Cluster.id).idxOf? id

theorem Indexed.of_ids {d d' : Draft} (indexed : d.Indexed)
    (ids : d'.clusters.map Cluster.id = d.clusters.map Cluster.id) (slots : d'.slots = d.slots) :
    d'.Indexed := by
  unfold Indexed
  rw [ids, slots]
  exact indexed

theorem Indexed.insert {d : Draft} (indexed : d.Indexed) {k : Cluster}
    (new : k.id ∉ d.clusters.map Cluster.id) :
    Indexed ⟨d.clusters ++ [k], d.slots.insert k.id d.clusters.length⟩ := by
  intro id
  have unknown : (d.clusters.map Cluster.id).idxOf? k.id = none := List.idxOf?_eq_none_iff.mpr new
  rw [Table.get?_insert, indexed id, List.map_append, List.idxOf?, List.findIdx?_append]
  by_cases same : id = k.id
  · subst same
    rw [List.idxOf?] at unknown
    simp [unknown, List.findIdx?_cons]
  · simp [same, Ne.symm same, List.findIdx?_cons]

/-- No test is lost on the way, and each gets to the cluster that it names. -/
theorem add?_eq {d : Draft} (indexed : d.Indexed) (c : Candidate) :
    ∃ d', d.add? c = some d' ∧ d'.clusters = place d.clusters c ∧ d'.Indexed := by
  have found := indexed c.cluster
  cases known : d.slots.get? c.cluster with
  | some n =>
    rw [known] at found
    obtain ⟨k, there, placed⟩ := place_of_idxOf? found.symm
    have named : c.cluster ∈ d.clusters.map Cluster.id := by
      by_contra new
      rw [List.idxOf?_eq_none_iff.mpr new] at found
      cases found
    refine ⟨{ d with clusters := place d.clusters c }, ?_, rfl, indexed.of_ids ?_ rfl⟩
    · simp [add?, slot, push?, known, there, placed]
    · rw [ids_place, if_pos named]
  | none =>
    rw [known] at found
    have new := List.idxOf?_eq_none_iff.mp found.symm
    refine ⟨⟨place d.clusters c, d.slots.insert c.cluster d.clusters.length⟩, ?_, rfl, ?_⟩
    · simp [add?, slot, push?, known, place_of_new new]
    · rw [place_of_new new]
      exact indexed.insert new

theorem foldlM_add? {d : Draft} (indexed : d.Indexed) (candidates : List Candidate) :
    ∃ d', candidates.foldlM add? d = some d' ∧
      d'.clusters = candidates.foldl Cluster.place d.clusters := by
  induction candidates generalizing d with
  | nil => exact ⟨d, rfl, rfl⟩
  | cons c cs ih =>
    obtain ⟨d', added, placed, indexed'⟩ := add?_eq indexed c
    obtain ⟨d'', ended, all⟩ := ih indexed'
    exact ⟨d'', by rw [List.foldlM_cons, added]; exact ended, by rw [all, placed]; rfl⟩

theorem clusters?_eq (candidates : List Candidate) :
    clusters? candidates = some (ofCandidates candidates) := by
  obtain ⟨d, ended, all⟩ := foldlM_add? (fun _ => rfl : ({} : Draft).Indexed) candidates
  rw [clusters?, ended, Option.map_some, all]
  rfl

end Draft

/-- Whatever tests are announced, each is planned once: in the cluster that it names, which is
    `default` for tests that name none, behind the tests that were announced before it. Clusters
    stand in the order in which their first tests were announced. They are found by their positions
    all the while, and none is missed. -/
theorem candidates_clustered (candidates : List Candidate) :
    let named := fun c : Candidate => c.clusterId.getD "default"
    let clusters := ofCandidates candidates
    Draft.clusters? candidates = some clusters ∧
      FirstSeen (candidates.map named) (clusters.map Cluster.id) ∧
      (∀ k ∈ clusters, k.tests ≠ [] ∧
        k.tests = (candidates.filter fun c => named c = k.id).map fun c =>
          ⟨c.path, none, c.partition, none, none⟩) ∧
      (clusters.flatMap tests).Perm (candidates.map .ofCandidate) := by
  intro named clusters
  have clustering := ofCandidates_clustering candidates
  refine ⟨Draft.clusters?_eq candidates, clustering.ids,
    fun k member => ⟨clustering.tests_ne_nil member, ?_⟩, tests_ofCandidates_perm candidates⟩
  exact clustering.tests_eq k member

theorem unnamed_clustered_with_default :
    let candidates : List Candidate :=
      [{ path := "a" }, { path := "b", clusterId := some "x" },
        { path := "c", clusterId := some "default", partition := some "unit" }]
    let k : Cluster := ⟨"default", [{ path := "a" }, { path := "c", partition := some "unit" }]⟩
    k ∈ ofCandidates candidates ∧
      k.tests = (candidates.filter fun c => c.clusterId.getD "default" = k.id).map fun c =>
        ⟨c.path, none, c.partition, none, none⟩ := by
  intro candidates k
  have member : k ∈ ofCandidates candidates := by decide
  exact ⟨member, ((candidates_clustered candidates).2.2.1 k member).2⟩

end Cluster

end TestImpact
