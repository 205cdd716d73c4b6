import TestImpact.Proofs.Collection.Site

namespace TestImpact

open Action Collector

variable {σ α : Type}

inductive Fate
  | arrives
  | requestLost (endpoint message : String)
  /-- The other side does what it is asked, and nobody hears of it. -/
  | answerLost (endpoint message : String)
  deriving DecidableEq, Repr

namespace Fate

def losesRequest : Fate → Bool
  | requestLost .. => true
  | _ => false

def losesAnswer : Fate → Bool
  | answerLost .. => true
  | _ => false

def carry (x : Action Error σ α) : Fate → Action Error σ α
  | arrives => x
  | requestLost endpoint message => .fail (.connectivity endpoint message)
  | answerLost endpoint message => do
    let _ ← (x.attempt : Action Error σ (Except Error α))
    .fail (.connectivity endpoint message)

/-- The fate of the next attempt, and those of the attempts behind it. Where none is given, an
    attempt arrives. -/
def next : List Fate → Fate × List Fate
  | [] => (arrives, [])
  | fate :: fates => (fate, fates)

theorem carry_leads {x : Action Error σ α} {good : α → σ → Prop} {bad bad' : σ → Prop} {s : σ}
    (fate : Fate) (leads : x.Leads good bad s) (failed : ∀ s', bad s' → bad' s')
    (unasked : fate.losesRequest = true → bad' s)
    (unheard : fate.losesAnswer = true → ∀ a s', good a s' → bad' s') :
    (fate.carry x).Leads good bad' s := by
  unfold Leads at leads ⊢
  cases fate with
  | arrives =>
    rw [carry]
    rcases ran : x.outcome s with ⟨h | a, s'⟩ <;> rw [ran] at leads
    · exact failed s' leads
    · exact leads
  | requestLost endpoint message => exact unasked rfl
  | answerLost endpoint message =>
    simp only [carry, outcome_bind, outcome_attempt]
    rcases ran : x.outcome s with ⟨(e | _) | a, s'⟩ <;> rw [ran] at leads
    · exact failed s' leads
    · exact failed s' leads
    · exact unheard rfl a s' leads

end Fate

def carried (x : Action Error σ α) : Action Error (σ × List Fate) α := do
  let fate ← Action.onSnd (.step Fate.next)
  Action.onFst (fate.carry x)

@[simp] theorem outcome_carried (x : Action Error σ α) (w : σ) (fates : List Fate) :
    (carried x).outcome (w, fates) =
      let answered := ((Fate.next fates).1.carry x).outcome w
      (answered.1, answered.2, (Fate.next fates).2) := by
  simp [carried]

theorem carried_leads {τ : Type} {x : Action Error τ α} {good : α → τ × List Fate → Prop}
    {bad : τ × List Fate → Prop} {t : τ} {fates : List Fate}
    (leads : ((Fate.next fates).1.carry x).Leads (fun a t => good a (t, (Fate.next fates).2))
      (fun t => bad (t, (Fate.next fates).2)) t) : (carried x).Leads good bad (t, fates) := by
  unfold Leads at leads ⊢
  rw [outcome_carried]
  rcases ran : ((Fate.next fates).1.carry x).outcome t with ⟨h | a, t'⟩ <;> rw [ran] at leads <;>
    exact leads

def LeadsOver {τ : Type} (x : Action Error (τ × List Fate) α) (good : α → τ → Prop)
    (bad : τ → Prop) (p : τ × List Fate) : Prop :=
  x.Leads (fun a p => good a p.1) (fun p => bad p.1) p

section Retries

variable {τ : Type} {operation : String} {x : Action Error τ α} {good : α → τ → Prop}
  {between bad : τ → Prop} {t : τ} {first second : Fate}

theorem retried_leads (once : (first.carry x).Leads good between t)
    (stays : ∀ t', between t' → bad t')
    (again : ∀ t', between t' → (second.carry x).Leads good bad t') :
    LeadsOver (withRetry operation (carried x)) good bad (t, [first, second]) := by
  have once' : (carried x).Leads (fun a p => good a p.1)
      (fun p => p.2 = [second] ∧ between p.1) (t, [first, second]) := by
    apply carried_leads
    simpa [Fate.next] using once
  refine withRetry_leads once' (fun p failed => stays p.1 failed.2) ?_
  rintro ⟨t', fates⟩ ⟨rfl, left⟩
  exact carried_leads (again t' left)

/-- Where the first request is lost, all is as if there were the second attempt only. -/
theorem retried_leads_of_lost (lost : first.losesRequest = true)
    (again : (second.carry x).Leads good bad t) :
    LeadsOver (withRetry operation (carried x)) good bad (t, [first, second]) := by
  cases first with
  | arrives | answerLost => cases lost
  | requestLost endpoint message =>
    have once : (carried x).outcome (t, [.requestLost endpoint message, second]) =
        (.error (.failed (.connectivity endpoint message)), t, [second]) := outcome_carried ..
    unfold LeadsOver
    unfold Leads at again ⊢
    simp only [outcome_withRetry, once, Error.isConnectivity, if_true, outcome_carried, Fate.next]
    rcases ran : (second.carry x).outcome t with ⟨(e | _) | a, t'⟩ <;> rw [ran] at again <;>
      exact again

end Retries

/-- A service at the other end of a line that may lose what is said of tests, both ways. -/
def Service.distant (s : Service σ) : Service (σ × List Fate) where
  description := s.description
  register request := (s.register request).onFst
  startTest id path := carried (s.startTest id path)
  endTest id execution retrieve := carried (s.endTest id execution retrieve)
  endRun id upload := (s.endRun id upload).onFst

def Client.distant (c : Client σ) : Client (σ × List Fate) where
  service := c.service.distant
  clock := c.clock.onFst
  baseline := c.baseline

structure Leg where
  move : Move
  first : Fate := .arrives
  second : Fate := .arrives

def travel (client : Client σ) : List Leg → Holding → σ → Holding × σ
  | [], h, w => (h, w)
  | leg :: legs, h, w =>
    let (h', w', _) := h.play client.distant leg.move (w, [leg.first, leg.second])
    travel client legs h' w'

/-- No answer to a start is lost, and an end arrives at least once. -/
def Leg.gentle (leg : Leg) : Bool :=
  match leg.move with
  | .start _ => !leg.first.losesAnswer && !leg.second.losesAnswer
  | .finish .. => !(leg.first.losesRequest && leg.second.losesRequest)
  | _ => true

def Keeps (c : Collector) (id : String) (active : Option String) : Prop :=
  ∃ executions s, c.sessions.get? id = some ⟨active, executions⟩ ∧ c.arena.get? id = some s

section Attempts

variable {setup : Setup σ} {c : Collector} {w : σ} {id path : String} {active : Option String}
  {first second : Fate}

theorem startTest_keeps (keeps : Keeps c id active) :
    (Collector.startTest setup id path).Leads
      (fun _ p => active = none ∧ Keeps p.1 id (some path)) (fun p => Keeps p.1 id active)
      (c, w) := by
  obtain ⟨executions, s, found, held⟩ := keeps
  simp only [Leads, outcome_startTest, found, held]
  cases active with
  | some running => exact ⟨executions, s, found, held⟩
  | none =>
    rcases (setup.recorder.beginWindow s path).outcome w with ⟨h | _, w'⟩
    · exact ⟨executions, s, found, held⟩
    · exact ⟨rfl, executions, s, by simp, held⟩

def afterEnd (path : String) (active : Option String) : Option String :=
  if active = some path then none else active

theorem afterEnd_idem : afterEnd path (afterEnd path active) = afterEnd path active := by
  unfold afterEnd
  split <;> simp_all

theorem endTest_keeps {execution : Execution} {retrieve : Bool} (keeps : Keeps c id active) :
    (Collector.endTest setup id execution retrieve).Leads
      (fun _ p => Keeps p.1 id (afterEnd execution.path active))
      (fun p => Keeps p.1 id (afterEnd execution.path active)) (c, w) := by
  obtain ⟨executions, s, found, held⟩ := keeps
  simp only [Leads, outcome_endTest, found, held, afterEnd]
  by_cases running : active = some execution.path
  · simp only [if_pos running]
    rcases (setup.recorder.endWindow s execution.path).outcome w with ⟨h | _, w'⟩
    · exact ⟨executions, s, by simp, held⟩
    · exact ⟨executions ++ [execution], s, by simp, held⟩
  · simp only [if_neg running]
    exact ⟨executions, s, found, held⟩

theorem startTest_retried (keeps : Keeps c id active) :
    LeadsOver (withRetry "start test" (carried (Collector.startTest setup id path)))
      (fun _ p => active = none ∧ Keeps p.1 id (some path))
      (fun p => Keeps p.1 id active ∨ active = none ∧ Keeps p.1 id (some path) ∧
        (first.losesAnswer = true ∨ second.losesAnswer = true))
      ((c, w), [first, second]) := by
  have attempt (fate : Fate) {active : Option String} {p : Collector × σ}
      (keeps : Keeps p.1 id active) :
      (fate.carry (Collector.startTest setup id path)).Leads
        (fun _ p => active = none ∧ Keeps p.1 id (some path))
        (fun p => Keeps p.1 id active ∨
          active = none ∧ Keeps p.1 id (some path) ∧ fate.losesAnswer = true) p :=
    fate.carry_leads (startTest_keeps keeps) (fun _ still => .inl still) (fun _ => .inl keeps)
      fun lost _ p begun => .inr ⟨begun.1, begun.2, lost⟩
  have once := attempt first (p := (c, w)) keeps
  refine retried_leads once ?_ ?_
  · rintro p (still | ⟨free, begun, lost⟩)
    · exact .inl still
    · exact .inr ⟨free, begun, .inl lost⟩
  · rintro p (still | ⟨free, begun, lost⟩)
    · refine (attempt second still).mono (fun _ _ begun => begun) fun p' failed => ?_
      exact failed.imp_right fun ⟨free, begun, lost⟩ => ⟨free, begun, .inr lost⟩
    · -- The first attempt has begun the test, so that the second one finds it running.
      refine (attempt second begun).mono nofun fun p' failed => ?_
      exact failed.elim (fun begun => .inr ⟨free, begun, .inl lost⟩) nofun

theorem endTest_retried {execution : Execution} {retrieve : Bool} (keeps : Keeps c id active) :
    LeadsOver (withRetry "end test" (carried (Collector.endTest setup id execution retrieve)))
      (fun _ p => Keeps p.1 id (afterEnd execution.path active))
      (fun p => Keeps p.1 id (afterEnd execution.path active) ∨ Keeps p.1 id active ∧
        first.losesRequest = true ∧ second.losesRequest = true)
      ((c, w), [first, second]) := by
  have attempt (fate : Fate) {active : Option String} {p : Collector × σ}
      (keeps : Keeps p.1 id active) :
      (fate.carry (Collector.endTest setup id execution retrieve)).Leads
        (fun _ p => Keeps p.1 id (afterEnd execution.path active))
        (fun p => Keeps p.1 id (afterEnd execution.path active) ∨
          Keeps p.1 id active ∧ fate.losesRequest = true) p :=
    fate.carry_leads (endTest_keeps keeps) (fun _ stopped => .inl stopped)
      (fun lost => .inr ⟨keeps, lost⟩) fun _ _ _ stopped => .inl stopped
  have once := attempt first (p := (c, w)) keeps
  cases lost : first.losesRequest with
  | true =>
    have again := attempt second (p := (c, w)) keeps
    refine retried_leads_of_lost lost (again.mono (fun _ _ stopped => stopped) fun _ failed => ?_)
    exact failed.imp_right fun ⟨still, lost'⟩ => ⟨still, rfl, lost'⟩
  | false =>
    simp only [lost, Bool.false_eq_true, and_false, or_false] at once
    refine retried_leads once (fun _ => .inl) fun p stopped => ?_
    -- The second attempt finds no test running.
    have again := attempt second stopped
    rw [afterEnd_idem] at again
    exact again.mono (fun _ _ stopped => stopped) fun _ failed => .inl (failed.elim (·) (·.1))

end Attempts

/-- What a leg does to a session, and to the test that the collector has as running in it. -/
inductive Leg.Takes (leg : Leg) : Session → Option String → Session → Option String → Prop
  | nothing (s : Session) (active : Option String) : leg.Takes s active s active
  | started {s : Session} {path : String} (accepted : s.CanStart path) :
      leg.Takes s none (s.begun path) (some path)
  | unheard {s : Session} {path : String} (accepted : s.CanStart path)
      (move : leg.move = .start path)
      (lost : leg.first.losesAnswer = true ∨ leg.second.losesAnswer = true) :
      leg.Takes s none s (some path)
  | ended {s : Session} {path : String} (active : Option String) (running : s.active = some path) :
      leg.Takes s active (s.past path) (afterEnd path active)
  | unended {s : Session} {path : String} {verdict : Verdict} {retrieve : Bool}
      (active : Option String) (running : s.active = some path)
      (move : leg.move = .finish verdict retrieve)
      (lost : leg.first.losesRequest = true ∧ leg.second.losesRequest = true) :
      leg.Takes s active (s.past path) active

section Journeys

variable {setup : Setup σ} {c : Collector} {w : σ} {active : Option String} {h : Holding}

theorem stopwatch_distant (steady : setup.clock.Steady) (baseline : Option Int) (c : Collector)
    (w : σ) (fates : List Fate) :
    ∃ now w', (setup.client baseline).distant.clock.stopwatch.outcome ((c, w), fates) =
      (.ok now, (c, w'), fates) := by
  obtain ⟨now, w', read⟩ := steady w
  exact ⟨now, w', by simp [Client.distant, Setup.client, Clock.onFst, Clock.onSnd, read]⟩

def Leg.Leaves (leg : Leg) (s : Session) (active : Option String) (s' : Session) (c' : Collector) :
    Prop :=
  s'.ended = true ∨ ∃ active', Keeps c' s'.id active' ∧ leg.Takes s active s' active'

theorem Leg.leaves_nothing (leg : Leg) {s : Session} (keeps : Keeps c s.id active) :
    leg.Leaves s active s c :=
  .inr ⟨active, keeps, .nothing s active⟩

theorem Leg.start_leaves (leg : Leg) (steady : setup.clock.Steady) (baseline : Option Int)
    {s : Session} {path : String} (move : leg.move = .start path) (keeps : Keeps c s.id active) :
    let next := Holding.play (setup.client baseline).distant (.start path) ⟨s, none⟩
      ((c, w), [leg.first, leg.second])
    leg.Leaves s active next.1.session next.2.1.1 := by
  by_cases accepted : s.CanStart path
  · simp only [Holding.play, Session.startTest_accepted _ _ accepted]
    have leads : LeadsOver (withRetry "start test"
        ((setup.client baseline).distant.service.startTest s.id path)) _ _
        ((c, w), [leg.first, leg.second]) := startTest_retried keeps
    unfold LeadsOver Leads at leads
    rcases asked : (withRetry "start test" ((setup.client baseline).distant.service.startTest
      s.id path)).outcome ((c, w), [leg.first, leg.second]) with ⟨h | _, ⟨c', w'⟩, fates⟩
    · rw [asked] at leads
      rcases leads with still | ⟨rfl, begun, lost⟩
      · exact .inr ⟨active, still, .nothing s active⟩
      · exact .inr ⟨some path, begun, .unheard accepted move lost⟩
    · rw [asked] at leads
      obtain ⟨rfl, begun⟩ := leads
      obtain ⟨now, w'', read⟩ := stopwatch_distant steady baseline c' w' fates
      simp only [read]
      exact .inr ⟨some path, begun, .started accepted⟩
  · obtain ⟨m, refused⟩ := Session.startTest_refused (setup.client baseline).distant
      ((c, w), [leg.first, leg.second]) accepted
    simp only [Holding.play, refused]
    exact leg.leaves_nothing keeps

theorem Leg.finish_leaves (leg : Leg) (steady : setup.clock.Steady) (baseline : Option Int)
    {s : Session} {test : RunningTest} {verdict : Verdict} {retrieve : Bool}
    (move : leg.move = .finish verdict retrieve) (running : s.active = some test.path)
    (keeps : Keeps c s.id active) :
    let next := Holding.play (setup.client baseline).distant (.finish verdict retrieve)
      ⟨s, some test⟩ ((c, w), [leg.first, leg.second])
    leg.Leaves s active next.1.session next.2.1.1 := by
  obtain ⟨now, w', read⟩ := stopwatch_distant steady baseline c w [leg.first, leg.second]
  have leads : LeadsOver (withRetry "end test"
      ((setup.client baseline).distant.service.endTest s.id (Session.report test verdict now)
        retrieve)) _ _ ((c, w'), [leg.first, leg.second]) := endTest_retried keeps
  unfold LeadsOver Leads at leads
  simp only [Holding.play, RunningTest.finish_eq, Session.outcome_finish, read]
  rcases asked : (withRetry "end test" ((setup.client baseline).distant.service.endTest s.id
    (Session.report test verdict now) retrieve)).outcome ((c, w'), [leg.first, leg.second])
    with ⟨h | _, ⟨c', w''⟩, fates⟩
  · rw [asked] at leads
    rcases leads with stopped | ⟨still, lost⟩
    · exact .inr ⟨_, stopped, .ended active running⟩
    · exact .inr ⟨active, still, .unended active running move lost⟩
  · rw [asked] at leads
    exact .inr ⟨_, leads, .ended active running⟩

theorem Leg.play_leaves (leg : Leg) (steady : setup.clock.Steady) (baseline : Option Int)
    (sound : h.Sound) (keeps : Keeps c h.session.id active) :
    let next := h.play (setup.client baseline).distant leg.move ((c, w), [leg.first, leg.second])
    leg.Leaves h.session active next.1.session next.2.1.1 := by
  obtain ⟨s, running⟩ := h
  cases move : leg.move with
  | start path =>
    cases running with
    | some test => exact leg.leaves_nothing keeps
    | none => exact leg.start_leaves steady baseline move keeps
  | finish verdict retrieve =>
    cases running with
    | none => exact leg.leaves_nothing keeps
    | some test =>
      exact leg.finish_leaves steady baseline move (sound.running_active test rfl) keeps
  | letGo => cases running <;> exact leg.leaves_nothing keeps
  | endRun upload =>
    cases running with
    | some test => exact leg.leaves_nothing keeps
    | none =>
      by_cases accepted : s.CanEnd
      · simp only [Holding.play, Session.endRun_accepted _ _ _ accepted]
        exact .inl rfl
      · obtain ⟨m, refused⟩ := Session.endRun_refused (setup.client baseline).distant upload
          ((c, w), [leg.first, leg.second]) accepted
        simp only [Holding.play, refused]
        exact leg.leaves_nothing keeps

theorem play_ended {client : Client σ} (steady : client.clock.Steady) (m : Move)
    (ended : h.session.ended = true) : (h.play client m w).1.session.ended = true := by
  rw [← h.play_heard client m w []]
  exact (h.play_step steady m w).ended_of_ended ended

/-- What each leg keeps of a session and of its test at the collector, a journey keeps, unless the
    session is over. -/
theorem travel_keeps (steady : setup.clock.Steady) (baseline : Option Int) (legs : List Leg)
    (kept : Session → Option String → Prop)
    (keep : ∀ leg ∈ legs, ∀ s active s' active', kept s active →
      leg.Takes s active s' active' → kept s' active')
    (sound : h.Sound) (start : h.session.ended = true ∨
      ∃ active, Keeps c h.session.id active ∧ kept h.session active) :
    let next := travel (setup.client baseline) legs h (c, w)
    next.1.session.ended = true ∨
      ∃ active, Keeps next.2.1 next.1.session.id active ∧ kept next.1.session active := by
  have steady' : (setup.client baseline).distant.clock.Steady := steady.onSnd.onFst
  induction legs generalizing h c w with
  | nil => exact start
  | cons leg legs ih =>
    have sound' := sound.play steady' leg.move ((c, w), [leg.first, leg.second])
    have start' :
        let next := h.play (setup.client baseline).distant leg.move
          ((c, w), [leg.first, leg.second])
        next.1.session.ended = true ∨ ∃ active,
          Keeps next.2.1.1 next.1.session.id active ∧ kept next.1.session active := by
      rcases start with ended | ⟨active, keeps, now⟩
      · exact .inl (play_ended steady' leg.move ended)
      · refine (leg.play_leaves steady baseline sound keeps).imp_right ?_
        rintro ⟨active', keeps', takes⟩
        exact ⟨active', keeps', keep leg List.mem_cons_self _ _ _ _ now takes⟩
    exact ih (fun leg member => keep leg (List.mem_cons_of_mem _ member)) sound' start'

theorem Leg.Takes.agree {leg : Leg} {s s' : Session} {active active' : Option String}
    (takes : leg.Takes s active s' active') (gentle : leg.gentle = true)
    (agree : s.active = active) : s'.active = active' := by
  cases takes with
  | nothing => exact agree
  | started => rfl
  | unheard accepted move lost =>
    rcases lost with lost | lost <;> simp [Leg.gentle, move, lost] at gentle
  | ended active running =>
    rw [← agree, running, afterEnd, if_pos rfl]
    rfl
  | unended active running move lost => simp [Leg.gentle, move, lost] at gentle

theorem Leg.Takes.blocked {leg : Leg} {s s' : Session} {path : String} {active' : Option String}
    (takes : leg.Takes s (some path) s' active') (idle : s.active = none) :
    s'.active = none ∧ active' = some path := by
  cases takes with
  | nothing => exact ⟨idle, rfl⟩
  | ended active running | unended active running => cases idle.symm.trans running

theorem openSession_keeps {baseline : Option Int} {opening : Opening} {s : Session}
    {place : Collector × σ}
    (opened : ((setup.client baseline).openSession opening).outcome (c, w) = (.ok s, place)) :
    Keeps place.1 s.id none ∧ ∃ clusters, s = (Holding.opened s.id clusters).session := by
  rcases Site.outcome_openSession setup baseline opening (c, w) with
    ⟨h, refused⟩ | ⟨-, accepted⟩
  · rw [refused] at opened
    cases opened
  · rw [outcome_register, opened] at accepted
    rcases fresh : setup.freshId.outcome w with ⟨h | id, w'⟩
    · rw [fresh] at accepted
      cases accepted
    · rcases reset : (setup.recorder.reset (c.arena.allocate id).1).outcome w' with ⟨h | _, w''⟩
      all_goals
        simp only [fresh, reset] at accepted
        cases accepted
      exact ⟨⟨[], (c.arena.allocate id).1, by simp [Holding.opened], by simp [Holding.opened]⟩,
        _, rfl⟩

theorem startTest_answer (steady : setup.clock.Steady) (baseline : Option Int) {s : Session}
    {path : String} (accepted : s.CanStart path) (keeps : Keeps c s.id active)
    (begins : ∀ snapshot, c.arena.get? s.id = some snapshot →
      ((setup.recorder.beginWindow snapshot path).outcome w).1 = .ok ()) :
    let result :=
      ((Session.startTest (setup.client baseline).distant path).outcome (s, (c, w), [])).1
    match active with
    | none => ∃ test, result = .ok test
    | some running => result = .error (.failed (.disagreement (.alreadyRunning s.id running))) := by
  obtain ⟨executions, snapshot, found, held⟩ := keeps
  have attempt : ((setup.client baseline).distant.service.startTest s.id path).outcome
      ((c, w), []) = let answered := (Collector.startTest setup s.id path).outcome (c, w)
        (answered.1, answered.2, []) := outcome_carried ..
  simp only [Session.startTest_accepted _ _ accepted, outcome_withRetry, attempt, outcome_startTest,
    found, held]
  cases active with
  | some running => rfl
  | none =>
    have begun := begins snapshot held
    rcases ran : (setup.recorder.beginWindow snapshot path).outcome w with ⟨answer, w'⟩
    rw [ran] at begun
    cases begun
    obtain ⟨now, w'', read⟩ := stopwatch_distant steady baseline
      (c.setRecord s.id ⟨some path, executions⟩) w' []
    simp only [read]
    exact ⟨_, rfl⟩

end Journeys

/-- Over a line that may lose what is said of tests, a session that is open and idle starts its next
    test if and only if the collector has none running in it. It has none if no answer to a start
    was lost and of each end one request at least arrived. -/
theorem next_test_starts_iff (setup : Setup σ) (steady : setup.clock.Steady)
    (baseline : Option Int) (opening : Opening) (c c' : Collector) (w w' : σ) (s : Session)
    (place : Collector × σ) (h : Holding) (legs : List Leg) (path : String)
    (opened : ((setup.client baseline).openSession opening).outcome (c, w) = (.ok s, place))
    (travelled : travel (setup.client baseline) legs ⟨s, none⟩ place = (h, c', w'))
    (accepted : h.session.CanStart path)
    (begins : ∀ snapshot, c'.arena.get? h.session.id = some snapshot →
      ((setup.recorder.beginWindow snapshot path).outcome w').1 = .ok ()) :
    let result := ((Session.startTest (setup.client baseline).distant path).outcome
      (h.session, (c', w'), [])).1
    ∃ r, c'.sessions.get? h.session.id = some r ∧
      ((∃ test, result = .ok test) ↔ r.active = none) ∧
      (∀ running, r.active = some running →
        result = .error (.failed (.disagreement (.alreadyRunning h.session.id running)))) ∧
      ((∀ leg ∈ legs, leg.gentle = true) → r.active = none) := by
  obtain ⟨c₀, w₀⟩ := place
  obtain ⟨keeps, clusters, registered⟩ := openSession_keeps opened
  have sound : Holding.Sound ⟨s, none⟩ := by
    rw [registered]
    exact Holding.opened_sound ..
  have idle : s.active = none := by rw [registered]; rfl
  have going : h.session.ended ≠ true := by simp [accepted.1]
  have anywhere := travel_keeps (w := w₀) steady baseline legs (fun _ _ => True)
    (fun _ _ _ _ _ _ _ _ => trivial) sound (.inr ⟨none, keeps, trivial⟩)
  simp only [travelled] at anywhere
  obtain ⟨active, keeps', -⟩ := anywhere.resolve_left going
  have answer := startTest_answer steady baseline accepted keeps' begins
  obtain ⟨executions, snapshot, found, held⟩ := keeps'
  refine ⟨_, found, ?_, ?_, fun gentle => ?_⟩
  · cases active with
    | none => exact iff_of_true answer rfl
    | some running =>
      refine iff_of_false (fun ⟨test, started⟩ => ?_) nofun
      cases answer.symm.trans started
  · rintro running rfl
    exact answer
  · have agreeing := travel_keeps (w := w₀) steady baseline legs (fun s active => s.active = active)
      (fun leg member _ _ _ _ agree takes => takes.agree (gentle leg member) agree) sound
      (.inr ⟨none, keeps, idle⟩)
    simp only [travelled] at agreeing
    obtain ⟨active', ⟨executions', _, found', -⟩, agree⟩ := agreeing.resolve_left going
    cases found.symm.trans found'
    rw [← agree, accepted.2.1]

def Collector.Setup.willing : Setup Nat :=
  { Setup.everySecond with
    recorder :=
      { Setup.everySecond.recorder with
        beginWindow := fun _ _ => .done ()
        endWindow := fun _ _ => .done "src/a.c:1-2" } }

def willingPlace : Collector × Nat :=
  (((Setup.willing.client none).openSession .withoutSelection).outcome
    ((Site.new 0).place.1, 0)).2

def Leg.sample : List Leg :=
  [⟨.start "a", .requestLost "peer" "refused", .arrives⟩,
    ⟨.finish ⟨.passed, none⟩ false, .answerLost "peer" "closed", .requestLost "peer" "refused"⟩]

theorem willing_next_test_starts :
    let client := Setup.willing.client none
    let next := travel client Leg.sample (Holding.opened "0" []) willingPlace
    (∀ leg ∈ Leg.sample, leg.gentle = true) ∧ next.1.session.CanStart "b" ∧
      ∃ test, ((Session.startTest client.distant "b").outcome (next.1.session, next.2, [])).1 =
        .ok test := by
  have gentle : ∀ leg ∈ Leg.sample, leg.gentle = true := by decide
  have steady : Setup.willing.clock.Steady := fun n => ⟨n, n, rfl⟩
  have accepted : (travel (Setup.willing.client none) Leg.sample (Holding.opened "0" [])
      willingPlace).1.session.CanStart "b" := by decide +kernel
  obtain ⟨r, -, starts, -, free⟩ := next_test_starts_iff Setup.willing steady none .withoutSelection
    {} _ 0 _ _ willingPlace _ Leg.sample "b" rfl rfl accepted fun _ _ => rfl
  exact ⟨gentle, accepted, starts.mpr (free gentle)⟩

/-- Where both requests to end a test are lost, the next test cannot start. -/
theorem lost_end_blocks_next_test :
    let client := Setup.willing.client none
    let next := travel client [⟨.start "a", .arrives, .arrives⟩,
      ⟨.finish ⟨.passed, none⟩ false, .requestLost "peer" "refused", .requestLost "peer" "refused"⟩]
      (Holding.opened "0" []) willingPlace
    next.1.session.CanStart "b" ∧
      (∀ s, ((Setup.willing.recorder.beginWindow s "b").outcome next.2.2).1 = .ok ()) ∧
      ((Session.startTest client.distant "b").outcome (next.1.session, next.2, [])).1 =
        .error (.failed (.disagreement (.alreadyRunning "0" "a"))) :=
  ⟨by decide +kernel, fun _ => rfl, rfl⟩

/-- A session for which the collector has a test running that is none of its own stays so, whatever
    arrives, until it is ended. -/
theorem blocked_until_ended (setup : Setup σ) (steady : setup.clock.Steady) (baseline : Option Int)
    (legs : List Leg) (h : Holding) (c : Collector) (w : σ) (running : String) (sound : h.Sound)
    (idle : h.session.active = none) (busy : Keeps c h.session.id (some running)) :
    let next := travel (setup.client baseline) legs h (c, w)
    next.1.session.ended = true ∨
      next.1.session.active = none ∧ Keeps next.2.1 next.1.session.id (some running) := by
  have stays := travel_keeps (w := w) steady baseline legs
    (fun s active => s.active = none ∧ active = some running)
    (fun leg _ s _ s' _ now takes => by
      obtain ⟨idle, rfl⟩ := now
      exact takes.blocked idle)
    sound (.inr ⟨_, busy, idle, rfl⟩)
  refine stays.imp_right ?_
  rintro ⟨active, keeps, idle, rfl⟩
  exact ⟨idle, keeps⟩

end TestImpact
