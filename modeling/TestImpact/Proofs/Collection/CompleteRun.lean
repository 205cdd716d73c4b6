import TestImpact.Proofs.Collection.Transport
import TestImpact.Proofs.Run.Plan

namespace TestImpact

open Action

variable {σ : Type}

theorem Client.register_of_ok (client : Client σ) (request : Registration) {plan : Plan} {w w' : σ}
    (answered : (client.service.register request).outcome w = (.ok plan, w')) :
    (client.register request).outcome w =
      (.ok { id := plan.sessionId, clusters := plan.clusters }, w') := by
  unfold Client.register
  simp [withRetry_of_ok answered]

namespace Collector

structure Rerecorded (c : Collector) (id : String) (r : SessionRecord) (c' : Collector) : Prop where
  recorded : c'.sessions.get? id = some r
  arena : c'.arena = c.arena
  openSessions : c'.openSessions = c.openSessions

theorem rerecorded_setRecord {c : Collector} {id : String} {r : SessionRecord}
    (found : c.sessions.get? id = some r) (r' : SessionRecord) :
    Rerecorded c id r' (c.setRecord id r') where
  recorded := by simp
  arena := rfl
  openSessions := Table.size_insert_of_mem r' (Table.mem_keys_iff.mpr ⟨r, found⟩)

theorem Rerecorded.trans {c c' c'' : Collector} {id : String} {r r' : SessionRecord}
    (first : Rerecorded c id r c') (second : Rerecorded c' id r' c'') : Rerecorded c id r' c'' where
  recorded := second.recorded
  arena := second.arena.trans first.arena
  openSessions := second.openSessions.trans first.openSessions

theorem openSessions_setRecord_of_none {c : Collector} {id : String}
    (absent : c.sessions.get? id = none) (r : SessionRecord) :
    (c.setRecord id r).openSessions = c.openSessions + 1 :=
  Table.size_insert_of_not_mem r (Table.get?_eq_none_iff.mp absent)

theorem openSessions_without {c : Collector} {id : String} {r : SessionRecord}
    (found : c.sessions.get? id = some r) :
    (c.without id).openSessions + 1 = c.openSessions :=
  Table.size_erase_of_mem (Table.mem_keys_iff.mpr ⟨r, found⟩)

/-- Surroundings whose recorder and store do all that is asked of them. Files may fail. -/
structure Setup.Willing (setup : Setup σ) : Prop where
  reset : ∀ s, (setup.recorder.reset s).Succeeds
  beginWindow : ∀ s path, (setup.recorder.beginWindow s path).Succeeds
  endWindow : ∀ s path, (setup.recorder.endWindow s path).Succeeds
  buildReport : ∀ s format, (setup.recorder.buildReport s format).Succeeds
  store : ∀ report, (setup.store.store report).Succeeds
  ensureDirectory : ∀ path, (setup.disk.ensureDirectory path).Returns
  write : ∀ path content, (setup.disk.write path content).Returns
  epochMillis : setup.clock.epochMillis.Succeeds
  stopwatch : setup.clock.stopwatch.Succeeds

variable {setup : Setup σ}

theorem Setup.Willing.writeExecutions (willing : setup.Willing) (executions : List Execution) :
    (Collector.writeExecutions setup executions).Returns := by
  intro w
  unfold Collector.writeExecutions
  cases setup.artifactDirectory with
  | none => simp
  | some directory =>
    have ensures := willing.ensureDirectory directory w
    rcases ensured : (setup.disk.ensureDirectory directory).outcome w with ⟨(e | _) | _, w₁⟩
    · simp [ensured]
    · simp [ensured] at ensures
    · obtain ⟨now, w₂, timed⟩ := willing.epochMillis w₁
      have writes := willing.write (directory.child (Text.Utf8.encode (executionsName now)))
        (Text.Utf8.encode (executionsText executions)) w₂
      rcases wrote : (setup.disk.write (directory.child (Text.Utf8.encode (executionsName now)))
        (Text.Utf8.encode (executionsText executions))).outcome w₂ with ⟨(e | _) | _, w₃⟩
      · simp [ensured, timed, wrote]
      · simp [wrote] at writes
      · simp [ensured, timed, wrote]

theorem Setup.Willing.observed (willing : setup.Willing) : setup.observed.Willing where
  reset s := (willing.reset s).noted _
  beginWindow s path := (willing.beginWindow s path).noted _
  endWindow s path := (willing.endWindow s path).noted _
  buildReport s format := (willing.buildReport s format).noted _
  store report := (willing.store report).noted _
  ensureDirectory path := (willing.ensureDirectory path).noted _
  write path content := (willing.write path content).noted _
  epochMillis := willing.epochMillis.noted _
  stopwatch := Clock.Steady.onFst willing.stopwatch

end Collector

inductive Ran (s : Snapshot) (verdict : PlannedTest → Verdict) :
    List PlannedTest → List Execution → List Inquiry → Prop
  | idle : Ran s verdict [] [] []
  | next {test : PlannedTest} {tests : List PlannedTest} {executions : List Execution}
      {windows : List Inquiry} (duration : UInt64) (coverage : String)
      (rest : Ran s verdict tests executions windows) :
      Ran s verdict (test :: tests)
        (⟨test.path, duration, (verdict test).status, (verdict test).message⟩ :: executions)
        (.began s test.path true :: .closed s test.path (some coverage) :: windows)

namespace Session

def runTest (client : Client σ) (verdict : PlannedTest → Verdict) (retrieve : PlannedTest → Bool)
    (test : PlannedTest) : Action Error (Session × σ) Unit := do
  let running ← startTest client test.path
  if retrieve test then
    let _ ← endTestWithCoverage client running (verdict test)
    return
  else endTest client running (verdict test)

def runTests (client : Client σ) (verdict : PlannedTest → Verdict) (retrieve : PlannedTest → Bool) :
    List PlannedTest → Action Error (Session × σ) Unit
  | [] => return
  | test :: tests => do
    runTest client verdict retrieve test
    runTests client verdict retrieve tests

end Session

namespace Collector

variable {setup : Setup σ}

structure Underway (s : Snapshot) (executions : List Execution) (session : Session)
    (c : Collector) : Prop where
  idle : session.CanEnd
  finished : ∀ path, path ∈ session.finished ↔ path ∈ executions.map Execution.path
  recorded : c.sessions.get? session.id = some ⟨none, executions⟩
  held : c.arena.get? session.id = some s

theorem Setup.Willing.stopwatch_read (willing : setup.Willing) (baseline : Option Int)
    (c : Collector) (w : σ) (asked : List Inquiry) :
    ∃ now w', (setup.observed.client baseline).clock.stopwatch.outcome (c, w, asked) =
      (.ok now, c, w', asked) := by
  obtain ⟨now, w', read⟩ := willing.stopwatch w
  exact ⟨now, w', by simp [Setup.client, Setup.observed, Clock.onSnd, read]⟩

theorem Setup.Willing.startTest (willing : setup.Willing) {c : Collector} {id : String}
    {executions : List Execution} {s : Snapshot}
    (recorded : c.sessions.get? id = some ⟨none, executions⟩) (held : c.arena.get? id = some s)
    (path : String) (w : σ) (asked : List Inquiry) :
    ∃ c' w', (Collector.startTest setup.observed id path).outcome (c, w, asked) =
        (.ok (), c', w', asked ++ [.began s path true]) ∧
      Rerecorded c id ⟨some path, executions⟩ c' := by
  obtain ⟨_, w', begun⟩ := willing.beginWindow s path w
  refine ⟨_, w', ?_, rerecorded_setRecord recorded _⟩
  simp only [outcome_startTest, recorded, held, Setup.observed, outcome_noted, begun]
  rfl

theorem Setup.Willing.endTest (willing : setup.Willing) {c : Collector} {id : String}
    (execution : Execution) {executions : List Execution} {s : Snapshot}
    (running : c.sessions.get? id = some ⟨some execution.path, executions⟩)
    (held : c.arena.get? id = some s) (retrieve : Bool) (w : σ) (asked : List Inquiry) :
    ∃ coverage c' w',
      (Collector.endTest setup.observed id execution retrieve).outcome (c, w, asked) =
        (.ok (if retrieve then some (attribution execution coverage) else none), c', w',
          asked ++ [.closed s execution.path (some coverage)]) ∧
      Rerecorded c id ⟨none, executions ++ [execution]⟩ c' := by
  obtain ⟨coverage, w', closed⟩ := willing.endWindow s execution.path w
  have between := rerecorded_setRecord running ⟨none, executions⟩
  refine ⟨coverage, _, w', ?_, between.trans (rerecorded_setRecord between.recorded _)⟩
  simp only [outcome_endTest, running, held, Setup.observed, outcome_noted, closed, if_true]
  rfl

theorem Setup.Willing.session_startTest (willing : setup.Willing) (baseline : Option Int)
    {s : Snapshot} {executions : List Execution} {session : Session} {c : Collector}
    (underway : Underway s executions session c) {path : String} (fresh : path ∉ session.finished)
    (w : σ) (asked : List Inquiry) :
    ∃ started c' w', (Session.startTest (setup.observed.client baseline) path).outcome
        (session, c, w, asked) =
          (.ok ⟨path, started⟩, session.begun path, c', w', asked ++ [.began s path true]) ∧
      Rerecorded c session.id ⟨some path, executions⟩ c' := by
  obtain ⟨c', w₁, begun, rerecorded⟩ :=
    willing.startTest underway.recorded underway.held path w asked
  obtain ⟨started, w₂, read⟩ :=
    willing.stopwatch_read baseline c' w₁ (asked ++ [.began s path true])
  have served : (withRetry "start test"
      ((setup.observed.client baseline).service.startTest session.id path)).outcome _ = _ :=
    withRetry_of_ok begun
  refine ⟨started, c', w₂, ?_, rerecorded⟩
  rw [Session.startTest_accepted _ _ ⟨underway.idle.1, underway.idle.2, fresh⟩]
  simp only [served, read]

theorem Setup.Willing.session_finish (willing : setup.Willing) (baseline : Option Int)
    {s : Snapshot} {executions : List Execution} (session : Session) {c : Collector}
    (test : RunningTest) (running : c.sessions.get? session.id = some ⟨some test.path, executions⟩)
    (held : c.arena.get? session.id = some s) (verdict : Verdict) (retrieve : Bool) (w : σ)
    (asked : List Inquiry) :
    ∃ duration coverage info c' w',
      (Session.finish (setup.observed.client baseline) test verdict retrieve).outcome
          (session, c, w, asked) =
        (.ok (if retrieve then some info else none), session.past test.path, c', w',
          asked ++ [.closed s test.path (some coverage)]) ∧
      Rerecorded c session.id
        ⟨none, executions ++ [⟨test.path, duration, verdict.status, verdict.message⟩]⟩ c' := by
  obtain ⟨now, w₁, read⟩ := willing.stopwatch_read baseline c w asked
  obtain ⟨coverage, c', w₂, closed, rerecorded⟩ :=
    willing.endTest (Session.report test verdict now) running held retrieve w₁ asked
  have served : (withRetry "end test" ((setup.observed.client baseline).service.endTest session.id
      (Session.report test verdict now) retrieve)).outcome _ = _ :=
    withRetry_of_ok closed
  refine ⟨_, coverage, attribution (Session.report test verdict now) coverage, c', w₂, ?_,
    rerecorded⟩
  rw [Session.outcome_finish]
  simp only [read, served]
  rfl

theorem Setup.Willing.runTest (willing : setup.Willing) (baseline : Option Int)
    (verdict : PlannedTest → Verdict) (retrieve : PlannedTest → Bool) (test : PlannedTest)
    {s : Snapshot} {executions : List Execution} {session : Session} {c : Collector}
    (underway : Underway s executions session c) (fresh : test.path ∉ session.finished) (w : σ)
    (asked : List Inquiry) :
    ∃ duration coverage c' w',
      (Session.runTest (setup.observed.client baseline) verdict retrieve test).outcome
          (session, c, w, asked) =
        (.ok (), session.past test.path, c', w',
          asked ++ [.began s test.path true, .closed s test.path (some coverage)]) ∧
      Underway s
        (executions ++ [⟨test.path, duration, (verdict test).status, (verdict test).message⟩])
        (session.past test.path) c' ∧
      c'.openSessions = c.openSessions := by
  obtain ⟨started, c₁, w₁, starts, first⟩ :=
    willing.session_startTest baseline underway fresh w asked
  have held : c₁.arena.get? session.id = some s := first.arena ▸ underway.held
  obtain ⟨duration, coverage, info, c₂, w₂, ends, second⟩ := willing.session_finish baseline
    (session.begun test.path) ⟨test.path, started⟩ first.recorded held (verdict test)
    (retrieve test) w₁ (asked ++ [.began s test.path true])
  refine ⟨duration, coverage, c₂, w₂, ?_,
    ⟨⟨underway.idle.1, rfl⟩, ?_, second.recorded, second.arena ▸ held⟩,
    second.openSessions.trans first.openSessions⟩
  · have past : (session.begun test.path).past test.path = session.past test.path := rfl
    cases asks : retrieve test <;> rw [asks] at ends <;>
      simp [Session.runTest, Session.endTest, Session.endTestWithCoverage, starts, asks, ends, past]
  · intro path
    simp [Session.past, underway.finished path, or_comm]

theorem Setup.Willing.runTests (willing : setup.Willing) (baseline : Option Int)
    (verdict : PlannedTest → Verdict) (retrieve : PlannedTest → Bool) {tests : List PlannedTest}
    (distinct : (tests.map PlannedTest.path).Nodup) {s : Snapshot} {executions : List Execution}
    {session : Session} {c : Collector} (underway : Underway s executions session c)
    (fresh : ∀ test ∈ tests, test.path ∉ session.finished) (w : σ) (asked : List Inquiry) :
    ∃ ran windows session' c' w',
      (Session.runTests (setup.observed.client baseline) verdict retrieve tests).outcome
          (session, c, w, asked) = (.ok (), session', c', w', asked ++ windows) ∧
      Ran s verdict tests ran windows ∧ Underway s (executions ++ ran) session' c' ∧
      session'.id = session.id ∧ c'.openSessions = c.openSessions := by
  induction tests generalizing executions session c w asked with
  | nil =>
    exact ⟨[], [], session, c, w, by simp [Session.runTests], .idle, by simpa using underway, rfl,
      rfl⟩
  | cons test tests ih =>
    obtain ⟨other, distinct⟩ := List.nodup_cons.mp distinct
    obtain ⟨duration, coverage, c₁, w₁, first, underway₁, open₁⟩ :=
      willing.runTest baseline verdict retrieve test underway (fresh test List.mem_cons_self) w
        asked
    -- The collector would take a finished test again, the session does not.
    have fresh₁ : ∀ t ∈ tests, t.path ∉ (session.past test.path).finished := by
      intro t member ran
      rcases List.mem_insert_iff.mp ran with same | ran
      · exact other (same ▸ List.mem_map_of_mem member)
      · exact fresh t (List.mem_cons_of_mem _ member) ran
    obtain ⟨ran, windows, session', c₂, w₂, rest, followed, underway₂, same, open₂⟩ :=
      ih distinct underway₁ fresh₁ w₁
        (asked ++ [.began s test.path true, .closed s test.path (some coverage)])
    refine ⟨_, _, session', c₂, w₂, ?_, .next duration coverage followed, ?_, same,
      open₂.trans open₁⟩
    · simp [Session.runTests, first, rest]
    · simpa using underway₂

theorem Setup.Willing.beginRun (willing : setup.Willing) (baseline : Option Int)
    {candidates : List Candidate} (distinct : (candidates.map Candidate.path).Nodup) {c : Collector}
    {w w₀ : σ} {id : String} (issued : setup.freshId.outcome w = (.ok id, w₀))
    (unused : c.sessions.get? id = none) (asked : List Inquiry) :
    ∃ c' w', ((setup.observed.client baseline).begin candidates).outcome (c, w, asked) =
        (.ok { id, clusters := Cluster.ofCandidates candidates }, c', w',
          asked ++ [.issued (some id), .reset (c.arena.allocate id).1]) ∧
      Underway (c.arena.allocate id).1 [] { id, clusters := Cluster.ofCandidates candidates } c' ∧
      c'.openSessions = c.openSessions + 1 := by
  obtain ⟨_, w₁, reset⟩ := willing.reset (c.arena.allocate id).1 w₀
  let request : Registration := ⟨some candidates, false, baseline⟩
  have registered : (Collector.register setup.observed request).outcome (c, w, asked) =
      (.ok ⟨id, Cluster.ofCandidates candidates⟩,
        ((c.announced request).admitted id).setRecord id {}, w₁,
        asked ++ [.issued (some id), .reset (c.arena.allocate id).1]) := by
    simp [outcome_register, Setup.observed, issued, reset, planFor, request, Except.toOption]
  refine ⟨((c.announced request).admitted id).setRecord id {}, w₁, ?_,
    ⟨⟨rfl, rfl⟩, by simp, by simp, by simp⟩,
    openSessions_setRecord_of_none (by simpa using unused) _⟩
  rw [Client.begin_of_distinct _ distinct]
  exact Client.register_of_ok (setup.observed.client baseline) request registered

theorem Setup.Willing.endRun (willing : setup.Willing) {c : Collector} {id : String}
    {executions : List Execution} {s : Snapshot}
    (recorded : c.sessions.get? id = some ⟨none, executions⟩) (held : c.arena.get? id = some s)
    (w : σ) (asked : List Inquiry) :
    ∃ files report w', (Collector.endRun setup.observed id true).outcome (c, w, asked) =
        (.ok (), c.without id, w',
          asked ++ files ++ [.built s setup.format (some report), .stored report true]) ∧
      ∀ e ∈ files, e.OnFiles := by
  obtain ⟨files, notes, onFiles⟩ := writeExecutions_asks setup executions w asked
  have returns := willing.observed.writeExecutions executions (w, asked)
  rcases written : (Collector.writeExecutions setup.observed executions).outcome (w, asked)
    with ⟨result, w₁, seen⟩
  rw [written] at notes returns
  subst notes
  obtain ⟨report, w₂, built⟩ := willing.buildReport s setup.format w₁
  obtain ⟨delivered, w₃, stored⟩ := willing.store report w₂
  have sent : (Collector.deliver setup.observed id s).outcome (w₁, asked ++ files) =
      (.ok (), w₃,
        asked ++ files ++ [.built s setup.format (some report), .stored report true]) := by
    simp [Collector.deliver, Setup.observed, built, stored, Except.toOption]
  refine ⟨files, report, w₃, ?_, onFiles⟩
  -- Whether the executions could be written or not, the report goes out.
  rcases result with (e | _) | path
  case error.unwound => exact absurd rfl returns
  all_goals simp only [outcome_endRun, recorded, held, written, sent, if_true]

theorem Setup.Willing.session_endRun (willing : setup.Willing) (baseline : Option Int)
    {s : Snapshot} {executions : List Execution} {session : Session} {c : Collector}
    (underway : Underway s executions session c) (w : σ) (asked : List Inquiry) :
    ∃ files report c' w',
      (Session.endRun (setup.observed.client baseline) true).outcome (session, c, w, asked) =
        (.ok (), session.closed, c', w',
          asked ++ files ++ [.built s setup.format (some report), .stored report true]) ∧
      (∀ e ∈ files, e.OnFiles) ∧ c'.openSessions + 1 = c.openSessions := by
  obtain ⟨files, report, w', ended, onFiles⟩ :=
    willing.endRun underway.recorded underway.held w asked
  have served : (withRetry "end test run"
      ((setup.observed.client baseline).service.endRun session.id true)).outcome _ = _ :=
    withRetry_of_ok ended
  refine ⟨files, report, _, w', ?_, onFiles, openSessions_without underway.recorded⟩
  rw [Session.endRun_accepted _ _ _ underway.idle]
  simp only [served]

/-- A run of distinct tests gets from its registration to its report, whatever other sessions there
    are: every test of the plan, which are the candidates, runs in a window of its own and is
    recorded with its verdict, and the report is delivered once. -/
theorem complete_run_succeeds (setup : Setup σ) (willing : setup.Willing) (baseline : Option Int)
    (candidates : List Candidate) (distinct : (candidates.map Candidate.path).Nodup)
    (verdict : PlannedTest → Verdict) (retrieve : PlannedTest → Bool) (c : Collector) (w w₀ : σ)
    (id : String) (issued : setup.freshId.outcome w = (.ok id, w₀))
    (unused : c.sessions.get? id = none) (asked : List Inquiry) :
    let client := setup.observed.client baseline
    let s := (c.arena.allocate id).1
    let begun := (client.begin candidates).outcome (c, w, asked)
    ∃ session, begun.1 = .ok session ∧
      session.tests.Perm (candidates.map .ofCandidate) ∧
      let ran := (Session.runTests client verdict retrieve session.tests).outcome (session, begun.2)
      let ended := (Session.endRun client true).outcome ran.2
      ran.1 = .ok () ∧ ended.1 = .ok () ∧
      ∃ executions windows files report,
        Ran s verdict session.tests executions windows ∧
        ran.2.2.1.sessions.get? id = some ⟨none, executions⟩ ∧
        (∀ e ∈ files, e.OnFiles) ∧
        ended.2.2.2.2 =
          asked ++ [.issued (some id), .reset s] ++ windows ++ files ++
            [.built s setup.format (some report), .stored report true] ∧
        ended.2.2.1.openSessions = c.openSessions := by
  intro client s begun
  obtain ⟨c₁, w₁, begins, underway₁, open₁⟩ :=
    willing.beginRun baseline distinct issued unused asked
  have planned := Cluster.tests_ofCandidates_perm candidates
  have distinct' : ((Cluster.ofCandidates candidates).flatMap Cluster.tests |>.map
      PlannedTest.path).Nodup := by
    rw [(planned.map PlannedTest.path).nodup_iff, List.map_map]
    exact distinct
  obtain ⟨executions, windows, session, c₂, w₂, runs, followed, underway₂, same, open₂⟩ :=
    willing.runTests baseline verdict retrieve distinct' underway₁ (by simp) w₁
      (asked ++ [.issued (some id), .reset (c.arena.allocate id).1])
  obtain ⟨files, report, c₃, w₃, ends, onFiles, open₃⟩ :=
    willing.session_endRun baseline underway₂ w₂
      (asked ++ [.issued (some id), .reset (c.arena.allocate id).1] ++ windows)
  have recorded := underway₂.recorded
  rw [same] at recorded
  refine ⟨_, congrArg Prod.fst begins, planned, ?_⟩
  simp only [begun, client, begins, Session.tests, runs, ends]
  exact ⟨trivial, trivial, executions, windows, files, report, followed, recorded, onFiles, rfl,
    by omega⟩

theorem willing_succeeds : Setup.willing.Willing where
  reset _ w := ⟨(), w, rfl⟩
  beginWindow _ _ w := ⟨(), w, rfl⟩
  endWindow _ _ w := ⟨_, w, rfl⟩
  buildReport _ _ w := ⟨_, w, rfl⟩
  store _ w := ⟨_, w, rfl⟩
  ensureDirectory _ _ := nofun
  write _ _ _ := nofun
  epochMillis w := ⟨0, w, rfl⟩
  stopwatch w := ⟨w, w, rfl⟩

def twoClusters : List Candidate :=
  [{ path := "a", clusterId := some "x" }, { path := "b" }, { path := "c", clusterId := some "x" }]

theorem run_beside_open_session :
    let client := Setup.willing.observed.client none
    let begun := (client.begin twoClusters).outcome (willingPlace.1, 1, [])
    (twoClusters.map Candidate.path).Nodup ∧
      willingPlace.1.sessions.get? "1" = none ∧ willingPlace.1.openSessions = 1 ∧
      ∃ session, begun.1 = .ok session ∧
        let ran := (Session.runTests client (fun _ => ⟨.passed, none⟩) (fun _ => true)
          session.tests).outcome (session, begun.2)
        let ended := (Session.endRun client true).outcome ran.2
        ran.1 = .ok () ∧ ended.1 = .ok () ∧ ended.2.2.1.openSessions = 1 := by
  intro client begun
  have distinct : (twoClusters.map Candidate.path).Nodup := by decide
  obtain ⟨session, begins, -, ran, ended, _, _, _, _, -, -, -, -, restored⟩ :=
    complete_run_succeeds Setup.willing willing_succeeds none twoClusters distinct
      (fun _ => ⟨.passed, none⟩) (fun _ => true) willingPlace.1 1 2 "1" rfl rfl []
  exact ⟨distinct, rfl, rfl, session, begins, ran, ended, restored⟩

end Collector

end TestImpact
