import TestImpact.Proofs.Session.Replies

namespace TestImpact

open Action

variable {σ : Type}

namespace Client

theorem outcome_register (client : Client σ) (request : Registration) (w : σ) :
    (client.register request).outcome w =
      match (withRetry "start test run" (client.service.register request)).outcome w with
      | (.ok plan, w') => (.ok (Holding.opened plan.sessionId plan.clusters).session, w')
      | (.error h, w') => (.error h, w') := by
  unfold Client.register
  rw [outcome_bind]
  rcases (withRetry "start test run" (client.service.register request)).outcome w
    with ⟨h | plan, w'⟩ <;> simp [Holding.opened]

theorem firstRepeated_eq_none_iff {seen paths : List String} :
    firstRepeated seen paths = none ↔ paths.Nodup ∧ ∀ p ∈ paths, p ∉ seen := by
  induction paths generalizing seen with
  | nil => simp [firstRepeated]
  | cons p ps ih =>
    rw [firstRepeated]
    by_cases known : p ∈ seen
    · simp [known]
    · rw [if_neg known, ih, List.nodup_cons]
      simp only [List.mem_cons, not_or]
      constructor
      · rintro ⟨distinct, apart⟩
        refine ⟨⟨fun member => (apart p member).1 rfl, distinct⟩, ?_⟩
        rintro q (rfl | member)
        · exact known
        · exact (apart q member).2
      · rintro ⟨⟨other, distinct⟩, fresh⟩
        refine ⟨distinct, fun q member => ⟨?_, fresh q (.inr member)⟩⟩
        rintro rfl
        exact other member

theorem firstRepeated_nil_eq_none_iff {paths : List String} :
    firstRepeated [] paths = none ↔ paths.Nodup := by
  simp [firstRepeated_eq_none_iff]

theorem split_of_firstRepeated {seen paths : List String} {path : String}
    (found : firstRepeated seen paths = some path) :
    ∃ before after, paths = before ++ path :: after ∧ before.Nodup ∧ (∀ p ∈ before, p ∉ seen) ∧
      (path ∈ seen ∨ path ∈ before) := by
  induction paths generalizing seen with
  | nil => cases found
  | cons p ps ih =>
    rw [firstRepeated] at found
    by_cases known : p ∈ seen
    · rw [if_pos known] at found
      cases found
      exact ⟨[], ps, rfl, .nil, nofun, .inl known⟩
    · rw [if_neg known] at found
      obtain ⟨before, after, rfl, distinct, fresh, again⟩ := ih found
      refine ⟨p :: before, after, rfl, List.nodup_cons.mpr ⟨fun member => ?_, distinct⟩, ?_, ?_⟩
      · exact fresh p member List.mem_cons_self
      · rintro q (_ | ⟨_, member⟩)
        · exact known
        · exact fun there => fresh q member (List.mem_cons_of_mem p there)
      · rcases again with there | member
        · rcases List.mem_cons.mp there with rfl | there
          · exact .inr List.mem_cons_self
          · exact .inl there
        · exact .inr (List.mem_cons_of_mem p member)

theorem begin_of_repeated (client : Client σ) {candidates : List Candidate}
    (repeated : ¬ (candidates.map Candidate.path).Nodup) (w : σ) :
    ∃ before path after, candidates.map Candidate.path = before ++ path :: after ∧ before.Nodup ∧
      path ∈ before ∧
      (client.begin candidates).outcome w =
        (.error (.failed (.refused (.duplicateTest path))), w) := by
  cases found : firstRepeated [] (candidates.map Candidate.path) with
  | none => exact absurd (firstRepeated_nil_eq_none_iff.mp found) repeated
  | some path =>
    obtain ⟨before, after, split, distinct, -, again⟩ := split_of_firstRepeated found
    refine ⟨before, path, after, split, distinct, ?_, by simp [begin, found]⟩
    rcases again with there | member
    · cases there
    · exact member

theorem begin_of_distinct (client : Client σ) {candidates : List Candidate}
    (distinct : (candidates.map Candidate.path).Nodup) :
    client.begin candidates = client.register ⟨some candidates, false, client.baseline⟩ := by
  simp only [begin, firstRepeated_nil_eq_none_iff.mpr distinct]

theorem register_replied (client : Client σ) (request : Registration) (w : σ) :
    let opened := ((client.noted Reply.of).register request).outcome (w, [])
    Replied "start test run" (.register request) opened.2.2 (opened.1.map fun _ => ()) := by
  intro opened
  have replied := withRetry_replied "start test run" (.register request)
    (client.service.register request) w
  change let asked := (withRetry "start test run"
      ((client.noted Reply.of).service.register request)).outcome (w, [])
    Replied "start test run" (.register request) asked.2.2 (asked.1.map fun _ => ()) at replied
  simp only [opened, outcome_register]
  rcases asked : (withRetry "start test run"
    ((client.noted Reply.of).service.register request)).outcome (w, []) with ⟨h | plan, p⟩ <;>
    rw [asked] at replied <;> exact replied

/-- A list of tests is refused if and only if two of them have one path, and nobody hears of it
    then. Any other list is heard as it is, and what the other side answers is what comes back. -/
theorem repeated_test_refused (client : Client σ) (candidates : List Candidate) (w : σ) :
    let paths := candidates.map Candidate.path
    let begun := ((client.noted Reply.of).begin candidates).outcome (w, [])
    ((∃ r, begun.1 = .error (.failed (.refused r))) ↔
      ¬ paths.Nodup ∨
        ∃ r earlier call, begun.2.2 = earlier ++ [⟨call, .error (.failed (.refused r))⟩]) ∧
    (¬ paths.Nodup → ∃ before path after, paths = before ++ path :: after ∧ before.Nodup ∧
      path ∈ before ∧ begun = (.error (.failed (.refused (.duplicateTest path))), w, [])) ∧
    (paths.Nodup →
      Replied "start test run" (.register ⟨some candidates, false, client.baseline⟩) begun.2.2
        (begun.1.map fun _ => ())) := by
  intro paths begun
  have refused (repeated : ¬ paths.Nodup) :=
    begin_of_repeated (client.noted Reply.of) repeated (w, [])
  have received (distinct : paths.Nodup) :
      Replied "start test run" (.register ⟨some candidates, false, client.baseline⟩) begun.2.2
        (begun.1.map fun _ => ()) := by
    simp only [begun, begin_of_distinct _ distinct]
    exact client.register_replied ⟨some candidates, false, client.baseline⟩ w
  refine ⟨?_, refused, received⟩
  by_cases distinct : paths.Nodup
  · -- Retrying makes no refusal, so one that is given is the other side's.
    have passed (r : Refusal) : begun.1 = .error (.failed (.refused r)) ↔
        ∃ earlier call, begun.2.2 = earlier ++ [⟨call, .error (.failed (.refused r))⟩] := by
      rw [← map_eq_error]
      exact (received distinct).error_iff rfl nofun
    simp only [passed, distinct, not_true_eq_false, false_or]
  · obtain ⟨before, path, after, -, -, -, stays⟩ := refused distinct
    have given : begun.1 = .error (.failed (.refused (.duplicateTest path))) :=
      congrArg Prod.fst stays
    exact iff_of_true ⟨_, given⟩ (.inl distinct)

theorem repeated_b_refused :
    let candidates : List Candidate :=
      [{ path := "a" }, { path := "b" }, { path := "b", clusterId := some "c" }, { path := "a" }]
    ¬ (candidates.map Candidate.path).Nodup ∧
      ∃ before path after, candidates.map Candidate.path = before ++ path :: after ∧
        before.Nodup ∧ path ∈ before ∧
        ((contrary.noted Reply.of).begin candidates).outcome ((), []) =
          (.error (.failed (.refused (.duplicateTest path))), (), []) := by
  intro candidates
  have repeated : ¬ (candidates.map Candidate.path).Nodup := by decide
  exact ⟨repeated, (repeated_test_refused contrary candidates ()).2.1 repeated⟩

/-- A refusal may be the other side's own, of tests that all differ. -/
theorem distinct_tests_refused_elsewhere :
    let candidates : List Candidate := [{ path := "a" }]
    let begun := ((contrary.noted Reply.of).begin candidates).outcome ((), [])
    (candidates.map Candidate.path).Nodup ∧
      begun.1 = .error (.failed (.refused (.other "not now"))) ∧
      begun.2.2.map Reply.call = [.register ⟨some candidates, false, none⟩] :=
  ⟨by decide, rfl, rfl⟩

end Client

end TestImpact
