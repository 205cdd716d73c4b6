import TestImpact.Proofs.Collection.Coupling
import TestImpact.Proofs.Session.Beginning

namespace TestImpact

open Action Collector

variable {σ : Type}

inductive Opening
  | tests (candidates : List Candidate)
  | withoutSelection
  | unchanged
  deriving DecidableEq, Repr

def Opening.registration (baseline : Option Int) : Opening → Registration
  | tests candidates => ⟨some candidates, false, baseline⟩
  | withoutSelection => ⟨none, true, baseline⟩
  | unchanged => ⟨none, false, baseline⟩

def Opening.Accepted : Opening → Prop
  | tests candidates => (candidates.map Candidate.path).Nodup
  | withoutSelection | unchanged => True

def Client.openSession (client : Client σ) : Opening → Action Error σ Session
  | .tests candidates => client.begin candidates
  | .withoutSelection => client.beginWithoutSelection
  | .unchanged => client.beginUnchanged

theorem Client.openSession_refused (client : Client σ) {opening : Opening}
    (refused : ¬ opening.Accepted) (w : σ) :
    ∃ r, (client.openSession opening).outcome w = (.error (.failed (.refused r)), w) := by
  cases opening with
  | withoutSelection => exact absurd trivial refused
  | unchanged => exact absurd trivial refused
  | tests candidates =>
    obtain ⟨before, path, after, -, -, -, stays⟩ := client.begin_of_repeated refused w
    exact ⟨.duplicateTest path, stays⟩

theorem Client.openSession_accepted (client : Client σ) {opening : Opening}
    (accepted : opening.Accepted) :
    client.openSession opening = client.register (opening.registration client.baseline) := by
  cases opening with
  | withoutSelection => rfl
  | unchanged => rfl
  | tests candidates => exact client.begin_of_distinct accepted

/-- A collector with its world and all that it asked of it, and the sessions that were opened at
    it. -/
structure Site (σ : Type) where
  place : Collector × σ × List Inquiry
  holdings : List Holding := []

namespace Site

def collector (site : Site σ) : Collector := site.place.1

def asked (site : Site σ) : List Inquiry := site.place.2.2

def ids (site : Site σ) : List String := site.holdings.map (·.session.id)

def new (w : σ) : Site σ where
  place := ({}, w, [])

inductive Deed
  | enter (baseline : Option Int) (opening : Opening)
  | move (session : Nat) (m : Move)
  deriving DecidableEq, Repr

/-- Baselines matter to registrations only, and a session that does not exist does nothing. -/
def act (setup : Setup σ) : Deed → Site σ → Site σ
  | .enter baseline opening, site =>
    match ((setup.observed.client baseline).openSession opening).outcome site.place with
    | (.ok s, place) => ⟨place, site.holdings ++ [⟨s, none⟩]⟩
    | (.error _, place) => ⟨place, site.holdings⟩
  | .move n m, site =>
    match site.holdings[n]? with
    | none => site
    | some h =>
      let (h', place) := h.play (setup.observed.client none) m site.place
      ⟨place, site.holdings.set n h'⟩

def run (setup : Setup σ) (deeds : List Deed) (site : Site σ) : Site σ :=
  deeds.foldl (fun site deed => site.act setup deed) site

/-- The sessions of a site and its collector agree on everything that both know, and of ids that
    were not issued nothing is known. -/
structure Agreed (site : Site σ) : Prop where
  sound : ∀ h ∈ site.holdings, h.Sound
  linked : ∀ h ∈ site.holdings, Linked h.session site.collector site.asked
  distinct : site.ids.Nodup
  known : ∀ id ∈ site.ids, id ∈ issued site.asked
  unknown : ∀ id ∉ issued site.asked,
    site.collector.arena.get? id = none ∧ openWindow id site.asked = none
  reports : ReportsWhenClosed site.asked

theorem new_agreed (w : σ) : (new w).Agreed where
  sound := nofun
  linked := nofun
  distinct := .nil
  known := nofun
  unknown _ _ := ⟨rfl, rfl⟩
  reports before s format report after split := absurd split (by simp [asked, new])

theorem Agreed.undisturbed {site : Site σ} {place : Collector × σ × List Inquiry}
    {ids : List String}
    (agreed : site.Agreed)
    (undisturbed : Undisturbed ids site.collector site.asked place.1 place.2.2)
    (new : issued place.2.2 = issued site.asked ++ ids) (fresh : (issued place.2.2).Nodup) :
    Agreed ⟨place, site.holdings⟩ where
  sound := agreed.sound
  linked h member := by
    refine (agreed.linked h member).undisturbed (fun issued => ?_) undisturbed
    rw [new] at fresh
    exact (List.nodup_append.mp fresh).2.2 _ (agreed.known _ (List.mem_map_of_mem member)) _ issued
      rfl
  distinct := agreed.distinct
  known id member := by
    show id ∈ issued place.2.2
    rw [new]
    exact List.mem_append_left _ (agreed.known id member)
  unknown id fresh' := by
    have apart : id ∉ issued site.asked ∧ id ∉ ids := by
      simpa [asked, new] using fresh'
    obtain ⟨arena, window⟩ := agreed.unknown id apart.1
    exact ⟨(undisturbed.arena id apart.2).trans arena,
      (undisturbed.windows id apart.2).trans window⟩
  reports := undisturbed.reports agreed.reports

theorem Agreed.enter {site : Site σ} {h : Holding} (agreed : site.Agreed) (sound : h.Sound)
    (linked : Linked h.session site.collector site.asked) (new : h.session.id ∉ site.ids)
    (known : h.session.id ∈ issued site.asked) : Agreed ⟨site.place, site.holdings ++ [h]⟩ where
  sound k member := by
    rcases List.mem_append.mp member with member | member
    · exact agreed.sound k member
    · rw [List.mem_singleton.mp member]
      exact sound
  linked k member := by
    rcases List.mem_append.mp member with member | member
    · exact agreed.linked k member
    · rw [List.mem_singleton.mp member]
      exact linked
  distinct := by
    simp only [ids, List.map_append, List.map_cons, List.map_nil]
    refine List.nodup_append.mpr ⟨agreed.distinct, by simp, ?_⟩
    rintro id member other last rfl
    exact new (List.mem_singleton.mp last ▸ member)
  known id member := by
    simp only [ids, List.map_append, List.map_cons, List.map_nil] at member
    rcases List.mem_append.mp member with member | member
    · exact agreed.known id member
    · rw [List.mem_singleton.mp member]
      exact known
  unknown := agreed.unknown
  reports := agreed.reports

theorem mem_set {holdings : List Holding} {n : Nat} {h h' k : Holding}
    (found : holdings[n]? = some h) (distinct : (holdings.map (·.session.id)).Nodup)
    (member : k ∈ holdings.set n h') : k = h' ∨ k ∈ holdings ∧ k.session.id ≠ h.session.id := by
  obtain ⟨i, here⟩ := List.mem_iff_getElem?.mp member
  obtain ⟨inside, -⟩ := List.getElem?_eq_some_iff.mp found
  rw [List.getElem?_set] at here
  by_cases same : n = i
  · simp only [← same, inside, if_true, Option.some.injEq] at here
    exact .inl here.symm
  · rw [if_neg same] at here
    refine .inr ⟨List.mem_of_getElem? here, fun named => same ?_⟩
    refine (List.getElem?_inj (l := holdings.map (·.session.id)) (by simpa) distinct).mp ?_
    simp [found, here, named]

theorem ids_set {holdings : List Holding} {n : Nat} {h h' : Holding}
    (found : holdings[n]? = some h) (named : h'.session.id = h.session.id) :
    (holdings.set n h').map (·.session.id) = holdings.map (·.session.id) := by
  have known : (holdings.map (·.session.id))[n]? = some h.session.id := by simp [found]
  obtain ⟨inside, here⟩ := List.getElem?_eq_some_iff.mp known
  rw [List.map_set, named, ← here, List.set_getElem_self]

theorem Agreed.move {site : Site σ} {n : Nat} {h h' : Holding}
    {place : Collector × σ × List Inquiry}
    (agreed : site.Agreed) (found : site.holdings[n]? = some h)
    (named : h'.session.id = h.session.id) (sound : h'.Sound)
    (follows : Follows site.place h'.session place) : Agreed ⟨place, site.holdings.set n h'⟩ where
  sound k member := by
    rcases mem_set found agreed.distinct member with rfl | ⟨member, -⟩
    · exact sound
    · exact agreed.sound k member
  linked k member := by
    rcases mem_set found agreed.distinct member with rfl | ⟨member, other⟩
    · exact follows.linked
    · refine (agreed.linked k member).undisturbed (fun same => other ?_) follows.undisturbed
      rw [List.mem_singleton.mp same, named]
  distinct := by
    simp only [ids, ids_set found named]
    exact agreed.distinct
  known id member := by
    simp only [ids, ids_set found named] at member
    exact follows.issued ▸ agreed.known id member
  unknown id fresh := by
    have fresh' : id ∉ issued site.asked := follows.issued ▸ fresh
    have apart : id ∉ [h'.session.id] := by
      intro same
      have here : h ∈ site.holdings := List.mem_of_getElem? found
      rw [List.mem_singleton.mp same, named] at fresh'
      exact fresh' (agreed.known _ (List.mem_map_of_mem here))
    obtain ⟨arena, window⟩ := agreed.unknown id fresh'
    exact ⟨(follows.undisturbed.arena id apart).trans arena,
      (follows.undisturbed.windows id apart).trans window⟩
  reports := follows.undisturbed.reports agreed.reports

/-- A registration is attempted once: what keeps it from a plan cannot be retried. -/
theorem withRetry_register (setup : Setup σ) (operation : String) (request : Registration)
    (p : Collector × σ) :
    (withRetry operation (register setup request)).outcome p =
      (register setup request).outcome p := by
  obtain ⟨c, w⟩ := p
  rw [outcome_withRetry, outcome_register]
  rcases setup.freshId.outcome w with ⟨h | id, w'⟩
  · rfl
  · rcases reset : (setup.recorder.reset (c.arena.allocate id).1).outcome w' with ⟨h | _, w''⟩ <;>
      simp only [reset]

theorem undisturbed_register {c c' : Collector} {seen : List Inquiry} {id : String} {s : Snapshot}
    (own : s.session = id)
    (sessions : ∀ other, other ≠ id → c'.sessions.get? other = c.sessions.get? other)
    (arena : ∀ other, other ≠ id → c'.arena.get? other = c.arena.get? other) :
    Undisturbed [id] c seen c' (seen ++ [.issued (some id), .reset s]) :=
  .inquire_own sessions arena (by simp [Inquiry.session?, own]) (·.append_of_none (by simp))

theorem register_agreed (setup : Setup σ) (request : Registration) {site : Site σ}
    (agreed : site.Agreed)
    (fresh : (issued ((register setup.observed request).outcome site.place).2.2.2).Nodup) :
    (register setup.observed request).Leads
      (fun plan place =>
        Agreed ⟨place, site.holdings ++ [Holding.opened plan.sessionId plan.clusters]⟩)
      (fun place => Agreed ⟨place, site.holdings⟩) site.place := by
  obtain ⟨⟨c, w, seen⟩, holdings⟩ := site
  simp only [Leads, outcome_register, Setup.observed, outcome_noted] at fresh ⊢
  rcases given : setup.freshId.outcome w with ⟨h | id, w'⟩
  · simp only [given] at fresh ⊢
    have quiet : Undisturbed [] c seen (c.announced request) (seen ++ [.issued none]) :=
      .inquire (fun _ _ => rfl) (fun _ _ => rfl) (by simp [Inquiry.session?])
        (·.append_of_none (by simp))
    exact agreed.undisturbed quiet (by simp [asked, issued, Except.toOption]) fresh
  · rcases reset : (setup.recorder.reset (c.arena.allocate id).1).outcome w' with ⟨h | _, w''⟩
    all_goals
      simp only [given, outcome_noted, reset, Except.toOption, List.append_assoc,
        List.cons_append, List.nil_append] at fresh ⊢
      have new : issued (seen ++ [.issued (some id), .reset (c.arena.allocate id).1]) =
          issued seen ++ [id] := by simp [issued]
      have unissued : id ∉ issued seen := by
        rw [new] at fresh
        exact fun given => (List.nodup_append.mp fresh).2.2 id given id (by simp) rfl
      -- The arena has nothing under a new id, so the snapshot is made for this session.
      obtain ⟨vacant, closed⟩ := agreed.unknown id unissued
      have own : (c.arena.allocate id).1.session = id := by
        unfold Arena.allocate
        rw [show c.arena.get? id = none from vacant]
    · refine agreed.undisturbed (undisturbed_register own ?_ ?_) new fresh
      · exact fun other ne => rfl
      · exact fun other ne => by simp [collector, ne]
    · have kept : Agreed ⟨(((c.announced request).admitted id).setRecord id {}, w'',
          seen ++ [.issued (some id), .reset (c.arena.allocate id).1]), holdings⟩ :=
        agreed.undisturbed (undisturbed_register own (fun other ne => by simp [collector, ne])
          fun other ne => by simp [collector, ne]) new fresh
      refine kept.enter (Holding.opened_sound ..) ⟨fun _ => ?_, fun ended => ?_⟩ ?_ ?_
      · refine ⟨[], (c.arena.allocate id).1, by simp [collector, Holding.opened],
          by simp [collector, Holding.opened], own, .nil, by simp, ?_⟩
        exact openWindow_append_of_none closed (by simp)
      · cases ended
      · exact fun member => unissued (agreed.known id member)
      · simp [Holding.opened, asked, new]

theorem outcome_openSession (setup : Setup σ) (baseline : Option Int) (opening : Opening)
    (p : Collector × σ) :
    (∃ h, ((setup.client baseline).openSession opening).outcome p = (.error h, p)) ∨
      opening.Accepted ∧ ((setup.client baseline).openSession opening).outcome p =
        match (register setup (opening.registration baseline)).outcome p with
        | (.ok plan, p') => (.ok (Holding.opened plan.sessionId plan.clusters).session, p')
        | (.error h, p') => (.error h, p') := by
  by_cases accepted : opening.Accepted
  · have once : (withRetry "start test run" ((setup.client baseline).service.register
        (opening.registration baseline))).outcome p =
        (register setup (opening.registration baseline)).outcome p := withRetry_register ..
    have opens := (setup.client baseline).outcome_register (opening.registration baseline) p
    rw [once] at opens
    refine .inr ⟨accepted, ?_⟩
    rw [Client.openSession_accepted _ accepted]
    rcases ran : (register setup (opening.registration baseline)).outcome p with ⟨h | plan, p'⟩ <;>
      rw [ran] at opens <;> exact opens
  · obtain ⟨r, stays⟩ := (setup.client baseline).openSession_refused accepted p
    exact .inl ⟨_, stays⟩

theorem openSession_leads {setup : Setup σ} {baseline : Option Int} {opening : Opening}
    {good : Session → Collector × σ → Prop} {bad : Collector × σ → Prop} {p : Collector × σ}
    (refused : bad p)
    (registered : opening.Accepted → (register setup (opening.registration baseline)).Leads
      (fun plan => good (Holding.opened plan.sessionId plan.clusters).session) bad p) :
    ((setup.client baseline).openSession opening).Leads good bad p := by
  unfold Leads at registered ⊢
  rcases outcome_openSession setup baseline opening p with ⟨h, stays⟩ | ⟨accepted, opens⟩
  · rw [stays]
    exact refused
  · have leads := registered accepted
    rcases ran : (register setup (opening.registration baseline)).outcome p with ⟨h | plan, p'⟩ <;>
      rw [ran] at leads opens <;> rw [opens] <;> exact leads

theorem Agreed.act {setup : Setup σ} (steady : setup.clock.Steady) {site : Site σ}
    (agreed : site.Agreed) (deed : Deed) (fresh : (issued (site.act setup deed).asked).Nodup) :
    (site.act setup deed).Agreed := by
  cases deed with
  | enter baseline opening =>
    rcases outcome_openSession setup.observed baseline opening site.place
      with ⟨h, refused⟩ | ⟨-, accepted⟩
    · simp only [Site.act, refused]
      exact agreed
    · have leads := register_agreed setup (opening.registration baseline) agreed
      unfold Leads at leads
      rcases ran : (register setup.observed (opening.registration baseline)).outcome site.place
        with ⟨h | plan, place⟩ <;>
        rw [ran] at leads accepted <;>
        simp only [Site.act, accepted, asked] at fresh ⊢ <;>
        exact leads fresh
  | move n m =>
    cases found : site.holdings[n]? with
    | none =>
      simp only [Site.act, found]
      exact agreed
    | some h =>
      have member : h ∈ site.holdings := List.mem_of_getElem? found
      have steady' : (setup.observed.client none).clock.Steady :=
        (show setup.observed.clock.Steady from steady.onFst).onSnd
      have follows := play_follows steady none m (agreed.sound h member) (agreed.linked h member)
      simp only [Site.act, found]
      exact agreed.move found (Holding.play_id steady' m h site.place)
        ((agreed.sound h member).play steady' m site.place) follows

def Since (earlier : List Inquiry) (p : Collector × σ × List Inquiry) : Prop :=
  ∃ more, p.2.2 = earlier ++ more

theorem perform_since (setup : Setup σ) {earlier : List Inquiry} (op : Operation)
    (p : Collector × σ × List Inquiry) (since : Since earlier p) :
    Since earlier ((op.perform setup.observed).outcome p).2 := by
  obtain ⟨c, w, seen⟩ := p
  obtain ⟨first, before⟩ := since
  obtain ⟨more, notes, -⟩ := perform_step setup op c w seen
  change seen = earlier ++ first at before
  exact ⟨first ++ more, by rw [notes, before, List.append_assoc]⟩

theorem play_since (setup : Setup σ) {earlier : List Inquiry} (m : Move) (h : Holding)
    {p : Collector × σ × List Inquiry} (since : Since earlier p) :
    Since earlier (h.play (setup.observed.client none) m p).2 := by
  have on (op : Operation) (p : Collector × σ × List Inquiry) (since : Since earlier p) :
      Since earlier ((op.perform setup.observed).outcome p).2 := perform_since setup op p since
  simp only [Operation.perform] at on
  refine Holding.play_keeps (fun _ since => since) (fun id path p since => ?_)
    (fun id execution retrieve p since => ?_) (fun id upload p since => ?_) m h since
  · exact outcome_map_state _ _ p ▸ on (.startTest id path) p since
  · exact outcome_map_state _ _ p ▸ on (.endTest id execution retrieve) p since
  · exact outcome_map_state _ _ p ▸ on (.endRun id upload) p since

theorem openSession_since (setup : Setup σ) {earlier : List Inquiry} (baseline : Option Int)
    (opening : Opening) {p : Collector × σ × List Inquiry} (since : Since earlier p) :
    Since earlier (((setup.observed.client baseline).openSession opening).outcome p).2 := by
  have registered :
      Since earlier ((register setup.observed (opening.registration baseline)).outcome p).2 := by
    rw [← outcome_map_state Answer.plan]
    exact perform_since setup (.register (opening.registration baseline)) p since
  have leads : ((setup.observed.client baseline).openSession opening).Leads
      (fun _ => Since earlier) (Since earlier) p :=
    openSession_leads since fun _ => .of_state registered
  exact leads.state

theorem act_asks (setup : Setup σ) (deed : Deed) (site : Site σ) :
    Since site.asked (site.act setup deed).place := by
  have start : Since site.asked site.place := ⟨[], (List.append_nil _).symm⟩
  cases deed with
  | enter baseline opening =>
    have still := openSession_since setup baseline opening start
    unfold act
    rcases entered : ((setup.observed.client baseline).openSession opening).outcome site.place
      with ⟨h | s, place⟩ <;> rw [entered] at still <;> simpa only [entered] using still
  | move n m =>
    cases found : site.holdings[n]? with
    | none =>
      simp only [act, found]
      exact start
    | some h =>
      simp only [act, found]
      exact play_since setup m h start

theorem run_asks (setup : Setup σ) (deeds : List Deed) (site : Site σ) :
    ∃ more, (site.run setup deeds).asked = site.asked ++ more := by
  induction deeds generalizing site with
  | nil => exact ⟨[], (List.append_nil _).symm⟩
  | cons deed deeds ih =>
    obtain ⟨first, acted⟩ := act_asks setup deed site
    obtain ⟨rest, ran⟩ := ih (site.act setup deed)
    exact ⟨first ++ rest, by rw [← List.append_assoc, ← acted]; exact ran⟩

theorem Agreed.run {setup : Setup σ} (steady : setup.clock.Steady) {site : Site σ}
    (agreed : site.Agreed) (deeds : List Deed)
    (fresh : (issued (site.run setup deeds).asked).Nodup) : (site.run setup deeds).Agreed := by
  induction deeds generalizing site with
  | nil => exact agreed
  | cons deed deeds ih =>
    -- No id is forgotten, so ids that are distinct in the end were distinct at each deed.
    refine ih (agreed.act steady deed ?_) fresh
    obtain ⟨more, ran⟩ := run_asks setup deeds (site.act setup deed)
    have all : (issued ((site.act setup deed).run setup deeds).asked).Nodup := fresh
    rw [ran, issued_append] at all
    exact (List.nodup_append.mp all).1

/-- The two sides of each session tell the same, and no report is built too early. -/
structure Coupled (site : Site σ) : Prop where
  open_present : ∀ h ∈ site.holdings, h.session.ended = false →
    ∃ r, site.collector.sessions.get? h.session.id = some r ∧ r.active = h.session.active
  ended_absent : ∀ h ∈ site.holdings, h.session.ended = true →
    site.collector.sessions.get? h.session.id = none
  executions_distinct : ∀ h ∈ site.holdings, ∀ r,
    site.collector.sessions.get? h.session.id = some r →
    (r.executions.map Execution.path).Nodup ∧ ∀ e ∈ r.executions, e.path ∈ h.session.finished
  reports_when_closed : ReportsWhenClosed site.asked

theorem Agreed.coupled {site : Site σ} (agreed : site.Agreed) : site.Coupled where
  open_present h member going := by
    obtain ⟨executions, snapshot, found, -⟩ := (agreed.linked h member).open_present going
    exact ⟨_, found, rfl⟩
  ended_absent h member ended := (agreed.linked h member).ended_absent ended
  executions_distinct h member r present := by
    cases ended : h.session.ended with
    | true => cases ((agreed.linked h member).ended_absent ended).symm.trans present
    | false =>
      obtain ⟨executions, snapshot, found, -, -, distinct, ran, -⟩ :=
        (agreed.linked h member).open_present ended
      cases found.symm.trans present
      exact ⟨distinct, ran⟩
  reports_when_closed := agreed.reports

/-- Whatever is done with any number of sessions at one collector, and whatever the recorder, the
    store and the disk answer: the sessions and the collector keep telling the same. -/
theorem run_coupled {setup : Setup σ} (steady : setup.clock.Steady) (deeds : List Deed) (w : σ)
    (fresh : (issued ((new w).run setup deeds).asked).Nodup) :
    ((new w).run setup deeds).Coupled :=
  ((new_agreed w).run steady deeds fresh).coupled

def Deed.sample : List Deed :=
  [.enter none (.tests []), .enter none .unchanged, .move 0 (.start "a"), .move 1 (.start "a"),
    .move 0 (.finish ⟨.passed, none⟩ true), .move 1 .letGo, .move 0 (.start "b"),
    .move 0 (.finish ⟨.passed, none⟩ false), .move 0 (.endRun true), .move 1 (.endRun true)]

theorem everySecond_coupled :
    Setup.everySecond.clock.Steady ∧
      (issued ((new 0).run Setup.everySecond Deed.sample).asked).Nodup ∧
      ((new 0).run Setup.everySecond Deed.sample).Coupled :=
  have steady : Setup.everySecond.clock.Steady := fun n => ⟨n, n, rfl⟩
  have fresh : (issued ((new 0).run Setup.everySecond Deed.sample).asked).Nodup := by decide +kernel
  ⟨steady, fresh, run_coupled steady Deed.sample 0 fresh⟩

end Site

end TestImpact
