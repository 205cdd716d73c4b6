import TestImpact.Proofs.Collection.Site

namespace TestImpact

open Action Collector

variable {σ : Type}

namespace Site

/-- How a session's operations end if the first call that they bring about at the recorder is lost,
    and the operation is attempted again. -/
structure SecondAttempts (setup : Setup σ) (h : Holding) (c : Collector) (w : σ)
    (asked : List Inquiry) : Prop where
  /-- A start asks the recorder again, and then all is as if it had been begun only now. -/
  start : ∀ path s e w', h.running = none → h.session.CanStart path →
    c.arena.get? h.session.id = some s → e.isConnectivity = true →
    (setup.recorder.beginWindow s path).outcome w = (.error (.failed e), w') →
    let started := fun w asked =>
      (Session.startTest (setup.observed.client none) path).outcome (h.session, c, w, asked)
    let second := (setup.recorder.beginWindow s path).outcome w'
    (second.1 = .ok () → (∃ test, (started w asked).1 = .ok test) ∧
      started w asked = started w' (asked ++ [.began s path false])) ∧
    ∀ e', second.1 = .error (.failed e') →
      started w asked = (.error (.failed (e'.afterRetry "start test")), h.session, c, second.2,
        asked ++ [.began s path false, .began s path false])
  /-- An end finds that the collector has no such test any more. -/
  finish : ∀ test verdict retrieve s now w₁ e w', h.running = some test →
    c.arena.get? h.session.id = some s → e.isConnectivity = true →
    setup.clock.stopwatch.outcome w = (.ok now, w₁) →
    (setup.recorder.endWindow s test.path).outcome w₁ = (.error (.failed e), w') →
    ∃ executions, c.sessions.get? h.session.id = some ⟨some test.path, executions⟩ ∧
      (Session.ending (setup.observed.client none) test verdict retrieve).outcome
        (h.session, c, w, asked) =
      (.error (.failed (.disagreement (.notRunning test.path h.session.id))),
        h.session.past test.path, c.setRecord h.session.id ⟨none, executions⟩, w',
        asked ++ [.closed s test.path none])
  /-- The end of a run finds that the collector has no such session any more: no report is built,
      and none is stored. -/
  endRun : ∀ r s wrote w₁ asked₁ e w', h.running = none → h.session.CanEnd →
    c.sessions.get? h.session.id = some r → c.arena.get? h.session.id = some s →
    e.isConnectivity = true →
    (writeExecutions setup.observed r.executions).outcome (w, asked) = (wrote, w₁, asked₁) →
    wrote ≠ .error .unwound →
    (setup.recorder.buildReport s setup.format).outcome w₁ = (.error (.failed e), w') →
    (Session.endRun (setup.observed.client none) true).outcome (h.session, c, w, asked) =
      (.error (unknown h.session.id), h.session.closed, c.without h.session.id, w',
        asked₁ ++ [.built s setup.format none])

section Attempts

variable {setup : Setup σ} {h : Holding} {s : Session} {c : Collector} {w w' : σ}
  {asked : List Inquiry} {snapshot : Snapshot} {executions : List Execution} {e : Error}

theorem startTest_again (steady : setup.clock.Steady) {path : String}
    (accepted : s.CanStart path) (found : c.sessions.get? s.id = some ⟨none, executions⟩)
    (held : c.arena.get? s.id = some snapshot) (lost : e.isConnectivity = true)
    (begun : (setup.recorder.beginWindow snapshot path).outcome w = (.error (.failed e), w')) :
    let started := fun w asked =>
      (Session.startTest (setup.observed.client none) path).outcome (s, c, w, asked)
    let second := (setup.recorder.beginWindow snapshot path).outcome w'
    (second.1 = .ok () → (∃ test, (started w asked).1 = .ok test) ∧
      started w asked = started w' (asked ++ [.began snapshot path false])) ∧
    ∀ e', second.1 = .error (.failed e') →
      started w asked = (.error (.failed (e'.afterRetry "start test")), s, c, second.2,
        asked ++ [.began snapshot path false, .began snapshot path false]) := by
  intro started second
  have refused {w w' : σ} {h : Halt Error} (asked : List Inquiry)
      (begun : (setup.recorder.beginWindow snapshot path).outcome w = (.error h, w')) :
      ((setup.observed.client none).service.startTest s.id path).outcome (c, w, asked) =
        (.error h, c, w', asked ++ [.began snapshot path false]) := by
    show (Collector.startTest setup.observed s.id path).outcome _ = _
    simp only [outcome_startTest, found, held, Setup.observed, outcome_noted, begun]
    rfl
  have taken {w w' : σ} (asked : List Inquiry)
      (begun : (setup.recorder.beginWindow snapshot path).outcome w = (.ok (), w')) :
      ((setup.observed.client none).service.startTest s.id path).outcome (c, w, asked) =
        (.ok (), c.setRecord s.id ⟨some path, executions⟩, w',
          asked ++ [.began snapshot path true]) := by
    show (Collector.startTest setup.observed s.id path).outcome _ = _
    simp only [outcome_startTest, found, held, Setup.observed, outcome_noted, begun]
    rfl
  have again := withRetry_of_lost "start test" (refused asked begun) lost
  simp only [started, second, Session.startTest_accepted _ _ accepted, again]
  rcases answered : (setup.recorder.beginWindow snapshot path).outcome w' with ⟨(e' | _) | _, w''⟩
  · constructor
    · intro same
      cases same
    · intro e'' same
      cases same
      simp [refused _ answered]
  · constructor
    · intro same
      cases same
    · intro e'' same
      cases same
  · constructor
    · intro _
      have retried := taken (asked ++ [.began snapshot path false]) answered
      rw [retried, withRetry_of_ok retried]
      obtain ⟨now, w₂, read⟩ := steady w''
      simp [Setup.client, Setup.observed, Clock.onSnd, read]
    · intro e'' same
      cases same

theorem ending_again {test : RunningTest} {verdict : Verdict} {retrieve : Bool} {now : Nat}
    {w₁ : σ} (found : c.sessions.get? s.id = some ⟨some test.path, executions⟩)
    (held : c.arena.get? s.id = some snapshot) (lost : e.isConnectivity = true)
    (read : setup.clock.stopwatch.outcome w = (.ok now, w₁))
    (closed : (setup.recorder.endWindow snapshot test.path).outcome w₁ =
      (.error (.failed e), w')) :
    (Session.ending (setup.observed.client none) test verdict retrieve).outcome (s, c, w, asked) =
      (.error (.failed (.disagreement (.notRunning test.path s.id))), s.past test.path,
        c.setRecord s.id ⟨none, executions⟩, w', asked ++ [.closed snapshot test.path none]) := by
  have watch : (setup.observed.client none).clock.stopwatch.outcome (c, w, asked) =
      (.ok now, c, w₁, asked) := by
    simp [Setup.client, Setup.observed, Clock.onSnd, read]
  let report := Session.report test verdict now
  have first : ((setup.observed.client none).service.endTest s.id report retrieve).outcome
      (c, w₁, asked) = (.error (.failed e), c.setRecord s.id ⟨none, executions⟩, w',
        asked ++ [.closed snapshot test.path none]) := by
    show (Collector.endTest setup.observed s.id report retrieve).outcome _ = _
    simp [outcome_endTest, found, held, Setup.observed, closed, report, Session.report,
      Except.toOption]
  have second : ((setup.observed.client none).service.endTest s.id report retrieve).outcome
      (c.setRecord s.id ⟨none, executions⟩, w', asked ++ [.closed snapshot test.path none]) =
        (.error (.failed (.disagreement (.notRunning test.path s.id))),
          c.setRecord s.id ⟨none, executions⟩, w',
          asked ++ [.closed snapshot test.path none]) := by
    show (Collector.endTest setup.observed s.id report retrieve).outcome _ = _
    simp [outcome_endTest, report, Session.report]
  have again := withRetry_of_lost "end test" first lost
  rw [second] at again
  simp only [Session.outcome_ending, Session.outcome_finish, watch]
  rw [show Session.report test verdict now = report from rfl, again]
  rfl

theorem endRun_lost {r : SessionRecord} {wrote : Except (Halt Error) (Option Files.Path)} {w₁ : σ}
    {asked₁ : List Inquiry} (accepted : s.CanEnd) (found : c.sessions.get? s.id = some r)
    (held : c.arena.get? s.id = some snapshot) (lost : e.isConnectivity = true)
    (written : (writeExecutions setup.observed r.executions).outcome (w, asked) =
      (wrote, w₁, asked₁)) (returned : wrote ≠ .error .unwound)
    (built : (setup.recorder.buildReport snapshot setup.format).outcome w₁ =
      (.error (.failed e), w')) :
    (Session.endRun (setup.observed.client none) true).outcome (s, c, w, asked) =
      (.error (unknown s.id), s.closed, c.without s.id, w',
        asked₁ ++ [.built snapshot setup.format none]) := by
  have delivered : (deliver setup.observed s.id snapshot).outcome (w₁, asked₁) =
      (.error (.failed e), w', asked₁ ++ [.built snapshot setup.format none]) := by
    simp [deliver, Setup.observed, built, Except.toOption]
  have first : ((setup.observed.client none).service.endRun s.id true).outcome (c, w, asked) =
      (.error (.failed e), c.without s.id, w', asked₁ ++ [.built snapshot setup.format none]) := by
    show (Collector.endRun setup.observed s.id true).outcome _ = _
    simp only [outcome_endRun, found, held, written]
    rcases wrote with (_ | _) | _
    · simp [delivered]
    · exact absurd rfl returned
    · simp [delivered]
  have second : ((setup.observed.client none).service.endRun s.id true).outcome
      (c.without s.id, w', asked₁ ++ [.built snapshot setup.format none]) =
        (.error (unknown s.id), c.without s.id, w',
          asked₁ ++ [.built snapshot setup.format none]) := by
    show (Collector.endRun setup.observed s.id true).outcome _ = _
    simp [outcome_endRun]
  have again := withRetry_of_lost "end test run" first lost
  rw [second] at again
  rw [Session.endRun_accepted _ _ _ accepted, again]
  rfl

end Attempts

/-- Whatever was done before with any number of sessions at one collector: of the operations whose
    first call to the recorder is lost, a start alone comes through with its second attempt. An end
    fails although the recorder might answer now, because the collector had let go of the test, or
    of the session, before it asked. -/
theorem second_attempts (setup : Setup σ) (steady : setup.clock.Steady) (deeds : List Deed) (w : σ)
    (fresh : (issued ((new w).run setup deeds).asked).Nodup) (n : Nat) (h : Holding)
    (found : ((new w).run setup deeds).holdings[n]? = some h) :
    let site := (new w).run setup deeds
    SecondAttempts setup h site.collector site.place.2.1 site.asked := by
  intro site
  have agreed : site.Agreed := (new_agreed w).run steady deeds fresh
  have member : h ∈ site.holdings := List.mem_of_getElem? found
  have sound := agreed.sound h member
  have linked := agreed.linked h member
  constructor
  · intro path s e w' _ accepted held lost begun
    obtain ⟨executions, -, present, -⟩ := linked.open_present accepted.1
    rw [accepted.2.1] at present
    exact startTest_again steady accepted present held lost begun
  · intro test verdict retrieve s now w₁ e w' running held lost read closed
    have active := sound.running_active test running
    have going : h.session.ended = false := by
      cases ended : h.session.ended with
      | false => rfl
      | true => cases (sound.ended_idle ended).symm.trans active
    obtain ⟨executions, -, present, -⟩ := linked.open_present going
    rw [active] at present
    exact ⟨executions, present, ending_again present held lost read closed⟩
  · intro r s wrote w₁ asked₁ e w' _ accepted present held lost written returned built
    exact endRun_lost accepted present held lost written returned built

def Deed.openings : List Deed := [.enter none .withoutSelection, .enter none .withoutSelection]

/-- A recorder that fails every second time is asked again for a start. -/
theorem everySecond_starts_again :
    let site := (new 0).run Setup.everySecond Deed.openings
    Setup.everySecond.clock.Steady ∧ (issued site.asked).Nodup ∧
      ∃ h, site.holdings[0]? = some h ∧
        SecondAttempts Setup.everySecond h site.collector site.place.2.1 site.asked ∧
        ∃ test, ((Session.startTest (Setup.everySecond.observed.client none) "a").outcome
          (h.session, site.place)).1 = .ok test := by
  intro site
  have steady : Setup.everySecond.clock.Steady := fun n => ⟨n, n, rfl⟩
  have fresh : (issued site.asked).Nodup := by decide +kernel
  have attempts := second_attempts Setup.everySecond steady Deed.openings 0 fresh 0
    (Holding.opened "0" []) rfl
  exact ⟨steady, fresh, _, rfl, attempts,
    ((attempts.start "a" ⟨"0", 1⟩ (.connectivity "peer" "refused") 3 rfl (by decide) rfl rfl rfl).1
      rfl).1⟩

/-- The same recorder would give the coverage of a test if it were asked again, but the end of the
    test fails: by then the collector has no test running. -/
theorem lost_end_is_over :
    let site := (new 0).run Setup.everySecond
      [.enter none .withoutSelection, .move 0 (.start "a")]
    let test : RunningTest := ⟨"a", 2⟩
    let window := Setup.everySecond.recorder.endWindow ⟨"0", 1⟩ "a"
    (∃ h, site.holdings[0]? = some h ∧ h.running = some test ∧
      ((Session.ending (Setup.everySecond.observed.client none) test ⟨.passed, none⟩ true).outcome
        (h.session, site.place)).1 = .error (.failed (.disagreement (.notRunning "a" "0")))) ∧
      window.outcome site.place.2.1 = (.error (.failed (.connectivity "peer" "refused")), 3) ∧
      window.outcome 3 = (.ok "src/a.c:1-2", 4) :=
  ⟨⟨_, rfl, rfl, rfl⟩, rfl, rfl⟩

end Site

end TestImpact
