import Mathlib.Data.List.Perm.Basic
import TestImpact.Run.Plan

namespace TestImpact.Cluster

theorem tests_place_perm (clusters : List Cluster) (c : Candidate) :
    ((place clusters c).flatMap tests).Perm (clusters.flatMap tests ++ [.ofCandidate c]) := by
  induction clusters with
  | nil => exact .refl _
  | cons k ks ih =>
    simp only [place]
    by_cases named : k.id = c.cluster
    · rw [if_pos named]
      simpa using (List.perm_append_singleton _ _).symm.append_left k.tests
    · rw [if_neg named]
      simpa using ih.append_left k.tests

theorem tests_foldl_place_perm (candidates : List Candidate) (clusters : List Cluster) :
    ((candidates.foldl place clusters).flatMap tests).Perm
      (clusters.flatMap tests ++ candidates.map .ofCandidate) := by
  induction candidates generalizing clusters with
  | nil => simp
  | cons c cs ih =>
    have placed := (tests_place_perm clusters c).append_right (cs.map PlannedTest.ofCandidate)
    simpa using (ih (place clusters c)).trans placed

/-- A plan neither drops a candidate nor runs one twice. -/
theorem tests_ofCandidates_perm (candidates : List Candidate) :
    ((ofCandidates candidates).flatMap tests).Perm (candidates.map .ofCandidate) :=
  tests_foldl_place_perm candidates []

theorem nodup_paths_ofCandidates {candidates : List Candidate}
    (distinct : (candidates.map Candidate.path).Nodup) :
    (((ofCandidates candidates).flatMap tests).map PlannedTest.path).Nodup := by
  rw [((tests_ofCandidates_perm candidates).map PlannedTest.path).nodup_iff, List.map_map]
  exact distinct

end TestImpact.Cluster
