import TestImpact.Proofs.Collection.Site
import TestImpact.Proofs.Collection.Snapshots
import TestImpact.Proofs.Run.Plan

namespace TestImpact.Collector

open Action

variable {σ : Type}

def Operation.announced? : Operation → Option (List Candidate)
  | register request => request.available
  | _ => none

def latest (ops : List Operation) : List Candidate :=
  (ops.filterMap Operation.announced?).getLast?.getD []

theorem latest_concat (ops : List Operation) (op : Operation) :
    latest (ops ++ [op]) = op.announced?.getD (latest ops) := by
  cases announced : op.announced? <;> simp [latest, announced]

theorem latest_without {op : Operation} (silent : op.announced? = none)
    (before later : List Operation) :
    latest (before ++ op :: later) = latest (before ++ later) := by
  simp [latest, silent]

section Known

variable {format : Report.Format} {past : List Passage} {c c' : Collector}

theorem Step.known {op : Operation} {asked : List Inquiry} {result : Result}
    (step : Step format c op asked result c') : c'.known = op.announced?.getD c.known := by
  cases step <;> rfl

theorem Reached.known (reached : Reached format past c) :
    c.known = latest (past.map (·.turn.operation)) := by
  induction reached with
  | new => rfl
  | turn reached step ih =>
    rw [step.known, ih, List.map_append]
    exact (latest_concat _ _).symm

theorem known_perform (setup : Setup σ) (op : Operation) (c : Collector) (w : σ) :
    ((op.perform setup).outcome (c, w)).2.1.known = op.announced?.getD c.known := by
  obtain ⟨asked, -, step⟩ := perform_step setup op c w []
  rw [← op.perform_observed setup c w []]
  exact step.known

theorem known_after (setup : Setup σ) (ops : List Operation) (w : σ) :
    (after setup ops {} w).1.known = latest ops := by
  have reached := Reached.new.passages setup ops w
  rw [reached.known, List.nil_append, operations_passages]

end Known

/-- The answer to a registration that announces nothing, where these are the tests that were
    announced last. Only what surrounds the collector can keep it from a plan. -/
def Planned (setup : Setup σ) (all : Bool) (announced : List Candidate)
    (answer : Except (Halt Error) Plan) : Prop :=
  (∃ id, answer = .ok ⟨id, if all then [] else Cluster.ofCandidates announced⟩) ∨
    answer = .error .unwound ∧
      ¬ (setup.freshId.Succeeds ∧ ∀ s, (setup.recorder.reset s).Succeeds)

theorem register_planned (setup : Setup σ) (all : Bool) (baseline : Option Int) (c : Collector)
    (w : σ) :
    Planned setup all c.known ((register setup ⟨none, all, baseline⟩).outcome (c, w)).1 := by
  rw [outcome_register]
  rcases given : setup.freshId.outcome w with ⟨h | id, w'⟩
  · refine .inr ⟨rfl, fun ⟨gives, _⟩ => ?_⟩
    obtain ⟨id, w'', gave⟩ := gives w
    cases given.symm.trans gave
  · rcases reset : (setup.recorder.reset (c.arena.allocate id).1).outcome w' with ⟨h | _, w''⟩
    · simp only [reset]
      refine .inr ⟨rfl, fun ⟨_, resets⟩ => ?_⟩
      obtain ⟨_, w'', reset'⟩ := resets (c.arena.allocate id).1 w'
      cases reset.symm.trans reset'
    · simp only [reset]
      exact .inl ⟨id, rfl⟩

theorem Planned.clusters {setup : Setup σ} {all : Bool} {announced : List Candidate} {plan : Plan}
    (planned : Planned setup all announced (.ok plan)) :
    plan.clusters = if all then [] else Cluster.ofCandidates announced := by
  rcases planned with ⟨id, same⟩ | ⟨same, -⟩
  · cases same
    rfl
  · cases same

def Distinct (c : Collector) : Prop := (c.known.map Candidate.path).Nodup

theorem Distinct.announced {c : Collector} (distinct : c.Distinct) {opening : Opening}
    (accepted : opening.Accepted) (baseline : Option Int) :
    (c.announced (opening.registration baseline)).Distinct := by
  cases opening with
  | tests candidates => exact accepted
  | withoutSelection | unchanged => exact distinct

theorem Distinct.planFor {c : Collector} {request : Registration}
    (distinct : (c.announced request).Distinct) :
    (((c.planFor request).flatMap Cluster.tests).map PlannedTest.path).Nodup := by
  unfold Collector.planFor
  unfold Distinct Collector.announced at distinct
  cases announced : request.available with
  | some tests =>
    rw [announced] at distinct
    exact Cluster.nodup_paths_ofCandidates distinct
  | none =>
    rw [announced] at distinct
    by_cases all : request.includeNonImpacted
    · simp [all]
    · simp only [all]
      exact Cluster.nodup_paths_ofCandidates distinct

theorem register_distinct (setup : Setup σ) {request : Registration} {c : Collector}
    (distinct : (c.announced request).Distinct) (w : σ) :
    (register setup request).Leads
      (fun plan p => ((plan.clusters.flatMap Cluster.tests).map PlannedTest.path).Nodup ∧
        p.1.Distinct)
      (fun p => p.1.Distinct) (c, w) := by
  unfold Leads
  rw [outcome_register]
  rcases setup.freshId.outcome w with ⟨h | id, w'⟩
  · exact distinct
  · rcases reset : (setup.recorder.reset (c.arena.allocate id).1).outcome w' with ⟨h | _, w''⟩ <;>
      simp only [reset]
    · exact distinct
    · exact ⟨distinct.planFor, distinct⟩

inductive Visit
  | enter (baseline : Option Int) (opening : Opening)
  | ask (op : Operation) (about : op.session?.isSome)

def entered (setup : Setup σ) : List Visit → Collector × σ → List Session
  | [], _ => []
  | .enter baseline opening :: visits, p =>
    match ((setup.client baseline).openSession opening).outcome p with
    | (.ok s, p') => s :: entered setup visits p'
    | (.error _, p') => entered setup visits p'
  | .ask op _ :: visits, p => entered setup visits ((op.perform setup).outcome p).2

theorem entered_distinct (setup : Setup σ) (visits : List Visit) {c : Collector}
    (distinct : c.Distinct) (w : σ) :
    ∀ s ∈ entered setup visits (c, w), (s.tests.map PlannedTest.path).Nodup := by
  induction visits generalizing c w with
  | nil => exact nofun
  | cons visit visits ih =>
    cases visit with
    | enter baseline opening =>
      have leads : ((setup.client baseline).openSession opening).Leads
          (fun s p => (s.tests.map PlannedTest.path).Nodup ∧ p.1.Distinct) (fun p => p.1.Distinct)
          (c, w) :=
        Site.openSession_leads distinct fun accepted =>
          register_distinct setup (distinct.announced accepted baseline) w
      unfold Leads at leads
      rcases opened : ((setup.client baseline).openSession opening).outcome (c, w)
        with ⟨h | s, c', w'⟩ <;> rw [opened] at leads <;> simp only [entered, opened]
      · exact ih leads w'
      · intro s' member
        rcases List.mem_cons.mp member with rfl | member
        · exact leads.1
        · exact ih leads.2 w' s' member
    | ask op about =>
      refine ih (c := ((op.perform setup).outcome (c, w)).2.1) ?_ _
      have silent : op.announced? = none := by
        cases op with
        | register => cases about
        | startTest | endTest | endRun => rfl
      unfold Distinct
      rw [known_perform, silent]
      exact distinct

/-- A registration that announces no tests plans those that were announced last, whatever happened
    since, or none at all if it asks for all. So if clients alone announce tests, no session is to
    run a test twice. -/
theorem latest_tests_planned (setup : Setup σ) (w : σ) :
    (∀ ops all baseline,
      Planned setup all (latest ops)
        ((register setup ⟨none, all, baseline⟩).outcome (after setup ops {} w)).1) ∧
    (∀ before op later all baseline baseline' w' plan plan', op.announced? = none →
      ((register setup ⟨none, all, baseline⟩).outcome
        (after setup (before ++ op :: later) {} w)).1 = .ok plan →
      ((register setup ⟨none, all, baseline'⟩).outcome
        (after setup (before ++ later) {} w')).1 = .ok plan' →
      plan.clusters = plan'.clusters) ∧
    ∀ visits, ∀ s ∈ entered setup visits ({}, w), (s.tests.map PlannedTest.path).Nodup := by
  have answers (ops : List Operation) (all : Bool) (baseline : Option Int) (w : σ) :
      Planned setup all (latest ops)
        ((register setup ⟨none, all, baseline⟩).outcome (after setup ops {} w)).1 := by
    rw [← known_after setup ops w]
    exact register_planned setup all baseline ..
  refine ⟨fun ops all baseline => answers ops all baseline w, ?_, fun visits => ?_⟩
  · intro before op later all baseline baseline' w' plan plan' silent planned planned'
    have first := answers (before ++ op :: later) all baseline w
    have second := answers (before ++ later) all baseline' w'
    rw [planned, latest_without silent] at first
    rw [planned'] at second
    exact first.clusters.trans second.clusters.symm
  · exact entered_distinct setup visits (show Distinct {} from List.nodup_nil) w

/-- Between the announcement and its use, its session fails to start a test and ends, and a session
    without tests is opened. -/
theorem everySecond_plans_announced :
    let tests : List Candidate :=
      [{ path := "a", clusterId := some "x" }, { path := "b" },
        { path := "c", clusterId := some "x" }]
    let ops : List Operation :=
      [.register ⟨some tests, false, none⟩, .startTest "0" "a", .endRun "0" false,
        .register ⟨none, true, none⟩]
    ∃ id, ((register .everySecond ⟨none, false, none⟩).outcome
        (after .everySecond ops {} 0)).1 =
      .ok ⟨id, [⟨"x", [{ path := "a" }, { path := "c" }]⟩, ⟨"default", [{ path := "b" }]⟩]⟩ := by
  intro tests ops
  rcases (latest_tests_planned .everySecond 0).1 ops false none with planned | ⟨-, unwilling⟩
  · exact planned
  · exact absurd ⟨fun w => ⟨_, _, rfl⟩, fun s w => ⟨_, _, rfl⟩⟩ unwilling

end TestImpact.Collector
