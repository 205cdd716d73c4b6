import TestImpact.Proofs.Collection.Windows
import TestImpact.Proofs.Session.Calls

namespace TestImpact

open Action Collector

variable {σ : Type}

structure Linked (s : Session) (c : Collector) (asked : List Inquiry) : Prop where
  open_present : s.ended = false → ∃ executions snapshot,
    c.sessions.get? s.id = some ⟨s.active, executions⟩ ∧
    c.arena.get? s.id = some snapshot ∧ snapshot.session = s.id ∧
    (executions.map Execution.path).Nodup ∧ (∀ e ∈ executions, e.path ∈ s.finished) ∧
    openWindow s.id asked = s.active
  ended_absent : s.ended = true → c.sessions.get? s.id = none

structure Undisturbed (ids : List String) (c : Collector) (asked : List Inquiry) (c' : Collector)
    (asked' : List Inquiry) : Prop where
  sessions : ∀ other ∉ ids, c'.sessions.get? other = c.sessions.get? other
  arena : ∀ other ∉ ids, c'.arena.get? other = c.arena.get? other
  windows : ∀ other ∉ ids, openWindow other asked' = openWindow other asked
  reports : ReportsWhenClosed asked → ReportsWhenClosed asked'

variable {ids : List String} {c c' c'' : Collector} {asked asked' asked'' more : List Inquiry}

theorem Undisturbed.refl : Undisturbed ids c asked c asked :=
  ⟨fun _ _ => rfl, fun _ _ => rfl, fun _ _ => rfl, id⟩

theorem Undisturbed.trans (first : Undisturbed ids c asked c' asked')
    (second : Undisturbed ids c' asked' c'' asked'') : Undisturbed ids c asked c'' asked'' where
  sessions other apart := (second.sessions other apart).trans (first.sessions other apart)
  arena other apart := (second.arena other apart).trans (first.arena other apart)
  windows other apart := (second.windows other apart).trans (first.windows other apart)
  reports closed := second.reports (first.reports closed)

theorem Undisturbed.inquire
    (sessions : ∀ other ∉ ids, c'.sessions.get? other = c.sessions.get? other)
    (arena : ∀ other ∉ ids, c'.arena.get? other = c.arena.get? other)
    (own : ∀ q ∈ more, ∀ other, q.session? = some other → other ∈ ids)
    (reports : ReportsWhenClosed asked → ReportsWhenClosed (asked ++ more)) :
    Undisturbed ids c asked c' (asked ++ more) where
  sessions := sessions
  arena := arena
  windows other apart :=
    openWindow_append_of_other fun q member about => apart (own q member other about)
  reports := reports

theorem Undisturbed.inquire_own {id : String}
    (sessions : ∀ other, other ≠ id → c'.sessions.get? other = c.sessions.get? other)
    (arena : ∀ other, other ≠ id → c'.arena.get? other = c.arena.get? other)
    (own : ∀ q ∈ more, ∀ other, q.session? = some other → other = id)
    (reports : ReportsWhenClosed asked → ReportsWhenClosed (asked ++ more)) :
    Undisturbed [id] c asked c' (asked ++ more) := by
  refine .inquire ?_ ?_ ?_ reports
  · exact fun other apart => sessions other fun same => apart (by simp [same])
  · exact fun other apart => arena other fun same => apart (by simp [same])
  · exact fun q member other about => by simp [own q member other about]

theorem Linked.undisturbed {s : Session} (linked : Linked s c asked) (apart : s.id ∉ ids)
    (undisturbed : Undisturbed ids c asked c' asked') : Linked s c' asked' where
  open_present going := by
    rw [undisturbed.sessions _ apart, undisturbed.arena _ apart, undisturbed.windows _ apart]
    exact linked.open_present going
  ended_absent ended := by
    rw [undisturbed.sessions _ apart]
    exact linked.ended_absent ended

def Collector.Setup.client (setup : Setup σ) (baseline : Option Int) : Client (Collector × σ) where
  service := Collector.service setup
  clock := setup.clock.onSnd
  baseline := baseline

structure Follows (start : Collector × σ × List Inquiry) (s : Session)
    (p : Collector × σ × List Inquiry) : Prop where
  linked : Linked s p.1 p.2.2
  undisturbed : Undisturbed [s.id] start.1 start.2.2 p.1 p.2.2
  issued : issued p.2.2 = issued start.2.2

theorem Follows.refl {s : Session} {p : Collector × σ × List Inquiry}
    (linked : Linked s p.1 p.2.2) : Follows p s p :=
  ⟨linked, .refl, rfl⟩

theorem Follows.inquire {start : Collector × σ × List Inquiry} {w w' : σ} {s s' : Session}
    (follows : Follows start s (c, w, asked)) (named : s'.id = s.id)
    (sessions : ∀ other, other ≠ s.id → c'.sessions.get? other = c.sessions.get? other)
    (arena : ∀ other, other ≠ s.id → c'.arena.get? other = c.arena.get? other)
    (own : ∀ q ∈ more, ∀ other, q.session? = some other → other = s.id)
    (unissued : TestImpact.issued more = [])
    (reports : ReportsWhenClosed asked → ReportsWhenClosed (asked ++ more))
    (linked : Linked s' c' (asked ++ more)) : Follows start s' (c', w', asked ++ more) where
  linked := linked
  undisturbed := by
    rw [named]
    exact follows.undisturbed.trans (.inquire_own sessions arena own reports)
  issued := by rw [issued_append, unissued, List.append_nil, follows.issued]

theorem startTest_follows (setup : Setup σ) {start p : Collector × σ × List Inquiry} {s : Session}
    {path : String} (follows : Follows start s p) (accepted : s.CanStart path) :
    (Collector.startTest setup.observed s.id path).Leads (fun _ => Follows start (s.begun path))
      (Follows start s) p := by
  obtain ⟨c, w, asked⟩ := p
  obtain ⟨executions, snapshot, found, held, own, distinct, ran, window⟩ :=
    follows.linked.open_present accepted.1
  rw [accepted.2.1] at found window
  simp only [Leads, outcome_startTest, found, held, Setup.observed, outcome_noted]
  rcases begun : (setup.recorder.beginWindow snapshot path).outcome w with ⟨h | _, w'⟩
  · refine follows.inquire rfl (fun _ _ => rfl) (fun _ _ => rfl) (by simp [Inquiry.session?, own])
      rfl (·.append_of_none (by simp))
      ⟨fun _ => ⟨executions, snapshot, ?_, held, own, distinct, ran, ?_⟩,
        fun ended => absurd ended (by simp [accepted.1])⟩
    · rw [accepted.2.1]
      exact found
    · rw [accepted.2.1]
      exact openWindow_append_of_none window (by simp)
  · refine follows.inquire rfl (fun other ne => by simp [ne]) (fun _ _ => rfl)
      (by simp [Inquiry.session?, own]) rfl (·.append_of_none (by simp))
      ⟨fun _ => ⟨executions, snapshot, by simp [Session.begun], held, own, distinct, ran, ?_⟩,
        fun ended => absurd ended (by simp [Session.begun, accepted.1])⟩
    simp [openWindow_append, Inquiry.window, own, Session.begun]

/-- The first attempt to end a test: whatever the recorder answers, the collector's test is over. -/
theorem endTest_follows (setup : Setup σ) {start p : Collector × σ × List Inquiry} {s : Session}
    {execution : Execution} (retrieve : Bool) (follows : Follows start s p)
    (going : s.ended = false) (active : s.active = some execution.path)
    (fresh : execution.path ∉ s.finished) :
    (Collector.endTest setup.observed s.id execution retrieve).Leads
      (fun _ => Follows start (s.past execution.path))
      (Follows start (s.past execution.path)) p := by
  obtain ⟨c, w, asked⟩ := p
  obtain ⟨executions, snapshot, found, held, own, distinct, ran, window⟩ :=
    follows.linked.open_present going
  simp only [Leads, outcome_endTest, found, active, held, if_true, Setup.observed, outcome_noted]
  rcases closed : (setup.recorder.endWindow snapshot execution.path).outcome w
    with ⟨h | coverage, w'⟩
  · refine follows.inquire rfl (fun other ne => by simp [ne]) (fun _ _ => rfl)
      (by simp [Inquiry.session?, own]) rfl (·.append_of_none (by simp))
      ⟨fun _ => ⟨executions, snapshot, by simp [Session.past], held, own, distinct, ?_, ?_⟩,
        fun ended => absurd ended (by simp [Session.past, going])⟩
    · exact fun e member => List.mem_insert_of_mem (ran e member)
    · simp [openWindow_append, Inquiry.window, own, Session.past]
  · refine follows.inquire rfl (fun other ne => by simp [ne]) (fun _ _ => rfl)
      (by simp [Inquiry.session?, own]) rfl (·.append_of_none (by simp))
      ⟨fun _ =>
        ⟨executions ++ [execution], snapshot, by simp [Session.past], held, own, ?_, ?_, ?_⟩,
        fun ended => absurd ended (by simp [Session.past, going])⟩
    · have apart : execution.path ∉ executions.map Execution.path := by
        intro member
        obtain ⟨e, there, same⟩ := List.mem_map.mp member
        exact fresh (same ▸ ran e there)
      rw [List.map_append, List.nodup_append]
      refine ⟨distinct, by simp, ?_⟩
      rintro a here b there rfl
      simp only [List.map_cons, List.map_nil, List.mem_singleton] at there
      exact apart (there ▸ here)
    · intro e member
      rcases List.mem_append.mp member with member | member
      · exact List.mem_insert_of_mem (ran e member)
      · rw [List.mem_singleton.mp member]
        exact List.mem_insert_self
    · simp [openWindow_append, Inquiry.window, own, Session.past]

theorem endTest_again (setup : Setup σ) {start p : Collector × σ × List Inquiry} {s : Session}
    {execution : Execution} (retrieve : Bool) {good : Option Attribution → _ → Prop}
    (follows : Follows start s p) (going : s.ended = false) (idle : s.active = none) :
    (Collector.endTest setup.observed s.id execution retrieve).Leads good (Follows start s) p := by
  obtain ⟨c, w, asked⟩ := p
  obtain ⟨executions, snapshot, found, -⟩ := follows.linked.open_present going
  simp only [Leads, outcome_endTest, found, idle, reduceCtorEq, if_false]
  exact follows

theorem endRun_follows (setup : Setup σ) {start p : Collector × σ × List Inquiry} {s : Session}
    (upload : Bool) (follows : Follows start s p) (accepted : s.CanEnd) :
    (Collector.endRun setup.observed s.id upload).Leads (fun _ => Follows start s.closed)
      (Follows start s.closed) p := by
  obtain ⟨c, w, asked⟩ := p
  obtain ⟨executions, snapshot, found, held, own, distinct, ran, window⟩ :=
    follows.linked.open_present accepted.1
  obtain ⟨more, notes, step⟩ := endRun_step setup s.id upload c w asked
  simp only [Operation.perform, outcome_map_state] at notes step
  obtain ⟨left, files, delivery, rfl, onFiles, delivering⟩ := step.of_endRun found held
  -- Nothing is asked but about files and the session's own snapshot.
  have ending : ∀ q ∈ files ++ delivery, Ending snapshot q := by
    intro q member
    rcases List.mem_append.mp member with member | member
    · exact .of_onFiles (onFiles q member)
    · rcases delivering with ⟨rfl, -⟩ | ⟨-, delivering⟩
      · cases member
      · exact delivering.ending q member
  have quiet : ReportsWhenClosed asked → ReportsWhenClosed (asked ++ (files ++ delivery)) := by
    refine fun closed => closed.append ?_
    intro before built format report after split
    have same : built = snapshot :=
      ending (.built built format report) (by rw [split]; simp)
    rw [same, own]
    refine openWindow_append_of_none (window.trans accepted.2) fun s' path member => ?_
    exact (ending (.began s' path true) (by rw [split]; simp [member])).elim
  refine .of_state (q := Follows start s.closed) ?_
  rcases ran : (endRun setup.observed s.id upload).outcome (c, w, asked)
    with ⟨result, c', w', asked'⟩
  simp only [ran] at left notes ⊢
  subst left notes
  refine follows.inquire rfl (fun other ne => by simp [ne]) (fun other ne => by simp [ne])
    (fun q member other about => own ▸ (ending q member).session about)
    (Ending.issued_eq_nil ending) quiet
    ⟨fun open_ => absurd open_ (by simp [Session.closed]), fun _ => ?_⟩
  simp [Session.closed]

theorem endRun_again (setup : Setup σ) {start p : Collector × σ × List Inquiry} {s : Session}
    (upload : Bool) {good : Unit → _ → Prop} (follows : Follows start s p)
    (ended : s.ended = true) :
    (Collector.endRun setup.observed s.id upload).Leads good (Follows start s) p := by
  obtain ⟨c, w, asked⟩ := p
  simp only [Leads, outcome_endRun, follows.linked.ended_absent ended]
  exact follows

theorem stopwatch_follows {setup : Setup σ} (steady : setup.clock.Steady) (baseline : Option Int)
    {start p : Collector × σ × List Inquiry} {s : Session} (follows : Follows start s p) :
    ∃ now p', (setup.observed.client baseline).clock.stopwatch.outcome p = (.ok now, p') ∧
      Follows start s p' := by
  obtain ⟨c, w, asked⟩ := p
  obtain ⟨now, w', read⟩ := steady w
  refine ⟨now, (c, w', asked), ?_, follows.linked, follows.undisturbed, follows.issued⟩
  simp [Setup.client, Setup.observed, Clock.onSnd, read]

section Moves

variable {setup : Setup σ} {s : Session} {p : Collector × σ × List Inquiry}

theorem play_start_follows (steady : setup.clock.Steady) (baseline : Option Int) (path : String)
    (linked : Linked s p.1 p.2.2) :
    let next := Holding.play (setup.observed.client baseline) (.start path) ⟨s, none⟩ p
    Follows p next.1.session next.2 := by
  by_cases accepted : s.CanStart path
  · have leads : (withRetry "start test" (Collector.startTest setup.observed s.id path)).Leads
        (fun _ => Follows p (s.begun path)) (Follows p s) p :=
      withRetry_leads (startTest_follows setup (.refl linked) accepted) (fun _ kept => kept)
        fun _ kept => startTest_follows setup kept accepted
    -- The collector is the client's service.
    change (withRetry "start test"
      ((setup.observed.client baseline).service.startTest s.id path)).Leads _ _ p at leads
    simp only [Holding.play, Session.startTest_accepted _ p accepted]
    unfold Leads at leads
    rcases asked : (withRetry "start test"
      ((setup.observed.client baseline).service.startTest s.id path)).outcome p with ⟨h | _, p'⟩
    · rw [asked] at leads
      exact leads
    · rw [asked] at leads
      obtain ⟨now, p'', read, follows⟩ := stopwatch_follows steady baseline leads
      simp only [read]
      exact follows
  · obtain ⟨m, refused⟩ := Session.startTest_refused (setup.observed.client baseline) p accepted
    simp only [Holding.play, refused]
    exact .refl linked

theorem play_finish_follows (steady : setup.clock.Steady) (baseline : Option Int)
    (verdict : Verdict) (retrieve : Bool) {test : RunningTest}
    (sound : Holding.Sound ⟨s, some test⟩) (linked : Linked s p.1 p.2.2) :
    let next := Holding.play (setup.observed.client baseline) (.finish verdict retrieve)
      ⟨s, some test⟩ p
    Follows p next.1.session next.2 := by
  have active : s.active = some test.path := sound.running_active test rfl
  have fresh : test.path ∉ s.finished := sound.active_fresh test.path active
  have going : s.ended = false := by
    cases ended : s.ended with
    | false => rfl
    | true => cases (sound.ended_idle ended).symm.trans active
  obtain ⟨now, p', read, follows⟩ := stopwatch_follows steady baseline (Follows.refl linked)
  have leads : (withRetry "end test" (Collector.endTest setup.observed s.id
      (Session.report test verdict now) retrieve)).Leads
      (fun _ => Follows p (s.past test.path)) (Follows p (s.past test.path)) p' :=
    withRetry_leads (endTest_follows setup retrieve follows going active fresh) (fun _ kept => kept)
      fun _ kept => endTest_again setup retrieve kept going rfl
  simp only [Holding.play, RunningTest.finish_eq, Session.outcome_finish, read]
  exact leads.state

theorem play_endRun_follows (baseline : Option Int) (upload : Bool) (linked : Linked s p.1 p.2.2) :
    let next := Holding.play (setup.observed.client baseline) (.endRun upload) ⟨s, none⟩ p
    Follows p next.1.session next.2 := by
  by_cases accepted : s.CanEnd
  · have leads : (withRetry "end test run" (Collector.endRun setup.observed s.id upload)).Leads
        (fun _ => Follows p s.closed) (Follows p s.closed) p :=
      withRetry_leads (endRun_follows setup upload (.refl linked) accepted) (fun _ kept => kept)
        fun _ kept => endRun_again setup upload kept rfl
    simp only [Holding.play, Session.endRun_accepted _ _ p accepted]
    exact leads.state
  · obtain ⟨m, refused⟩ := Session.endRun_refused (setup.observed.client baseline) upload p accepted
    simp only [Holding.play, refused]
    exact .refl linked

theorem play_follows (steady : setup.clock.Steady) (baseline : Option Int) (m : Move) {h : Holding}
    (sound : h.Sound) (linked : Linked h.session p.1 p.2.2) :
    let next := h.play (setup.observed.client baseline) m p
    Follows p next.1.session next.2 := by
  obtain ⟨s, running⟩ := h
  cases m with
  | start path =>
    cases running with
    | none => exact play_start_follows steady baseline path linked
    | some test => exact .refl linked
  | finish verdict retrieve =>
    cases running with
    | none => exact .refl linked
    | some test => exact play_finish_follows steady baseline verdict retrieve sound linked
  | letGo => cases running <;> exact .refl linked
  | endRun upload =>
    cases running with
    | none => exact play_endRun_follows baseline upload linked
    | some test => exact .refl linked

end Moves

end TestImpact
