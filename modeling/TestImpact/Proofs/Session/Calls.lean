import TestImpact.Proofs.Session.Holding

namespace TestImpact

open Action

variable {σ ω α : Type}

inductive Call
  | register (request : Registration)
  | startTest (session path : String)
  | endTest (session : String) (execution : Execution) (retrieve : Bool)
  | endRun (session : String) (upload : Bool)
  deriving DecidableEq, Repr

structure Attempt where
  call : Call
  succeeded : Bool
  deriving DecidableEq, Repr

def Attempt.of (call : Call) (r : Except (Halt Error) α) : Attempt := ⟨call, r.isOk⟩

def Attempt.Ends (session path : String) (a : Attempt) : Prop :=
  ∃ execution retrieve, a.call = .endTest session execution retrieve ∧ execution.path = path

def Service.heard (s : Service σ) : Service (σ × List Attempt) where
  description := s.description
  register request := (s.register request).noted (.of (.register request))
  startTest id path := (s.startTest id path).noted (.of (.startTest id path))
  endTest id execution retrieve :=
    (s.endTest id execution retrieve).noted (.of (.endTest id execution retrieve))
  endRun id upload := (s.endRun id upload).noted (.of (.endRun id upload))

def Client.heard (c : Client σ) : Client (σ × List Attempt) where
  service := c.service.heard
  clock := c.clock.onFst
  baseline := c.baseline

def Service.noted (note : {α : Type} → Call → Except (Halt Error) α → ω) (s : Service σ) :
    Service (σ × List ω) where
  description := s.description
  register request := (s.register request).noted (note (.register request))
  startTest id path := (s.startTest id path).noted (note (.startTest id path))
  endTest id execution retrieve :=
    (s.endTest id execution retrieve).noted (note (.endTest id execution retrieve))
  endRun id upload := (s.endRun id upload).noted (note (.endRun id upload))

def Client.noted (note : {α : Type} → Call → Except (Halt Error) α → ω) (c : Client σ) :
    Client (σ × List ω) where
  service := c.service.noted note
  clock := c.clock.onFst
  baseline := c.baseline

theorem Client.heard_eq (c : Client σ) : c.heard = c.noted Attempt.of := rfl

def Tried (call : Call) (succeeded : Bool) (attempts : List Attempt) : Prop :=
  attempts = [⟨call, succeeded⟩] ∨ attempts = [⟨call, false⟩, ⟨call, succeeded⟩]

theorem Tried.mem {call : Call} {succeeded : Bool} {attempts : List Attempt}
    (tried : Tried call succeeded attempts) {a : Attempt} (member : a ∈ attempts) :
    a.call = call := by
  rcases tried with rfl | rfl <;> simp at member
  · rw [member]
  · rcases member with rfl | rfl <;> rfl

theorem Tried.last {call : Call} {succeeded : Bool} {attempts : List Attempt}
    (tried : Tried call succeeded attempts) : ∃ first, attempts = first ++ [⟨call, succeeded⟩] := by
  rcases tried with rfl | rfl
  · exact ⟨[], rfl⟩
  · exact ⟨[⟨call, false⟩], rfl⟩

theorem withRetry_tried {operation : String} {call : Call} {x : Action Error σ α} {w w' : σ}
    {result : Except (Halt Error) α} {attempts : List Attempt}
    (asked : (withRetry operation (x.noted (.of call))).outcome (w, []) = (result, w', attempts)) :
    Tried call result.isOk attempts := by
  rw [outcome_withRetry] at asked
  rcases first : x.outcome w with ⟨(e | _) | a, w₁⟩
  · by_cases lost : e.isConnectivity
    · rcases second : x.outcome w₁ with ⟨(e' | _) | a, w₂⟩ <;>
        simp [first, second, lost, Attempt.of] at asked <;>
        obtain ⟨rfl, rfl, rfl⟩ := asked <;> exact .inr rfl
    · simp [first, lost, Attempt.of] at asked
      obtain ⟨rfl, rfl, rfl⟩ := asked
      exact .inl rfl
  · simp [first, Attempt.of] at asked
    obtain ⟨rfl, rfl, rfl⟩ := asked
    exact .inl rfl
  · simp [first, Attempt.of] at asked
    obtain ⟨rfl, rfl, rfl⟩ := asked
    exact .inl rfl

inductive Holding.Step : Holding → Move → List Attempt → Holding → Prop
  | idle {h h' : Holding} {m : Move} (refused : ¬ h.Accepts m) (same : h'.session = h.session)
      (lent : h'.running = none ∨ h'.running = h.running) : Step h m [] h'
  | started {s : Session} {path : String} {attempts : List Attempt} (since : Nat)
      (accepted : s.CanStart path) (tried : Tried (.startTest s.id path) true attempts) :
      Step ⟨s, none⟩ (.start path) attempts ⟨s.begun path, some ⟨path, since⟩⟩
  | notStarted {s : Session} {path : String} {attempts : List Attempt}
      (accepted : s.CanStart path) (tried : Tried (.startTest s.id path) false attempts) :
      Step ⟨s, none⟩ (.start path) attempts ⟨s, none⟩
  | finished {s : Session} {test : RunningTest} {verdict : Verdict} {retrieve succeeded : Bool}
      {execution : Execution} {attempts : List Attempt} (named : execution.path = test.path)
      (tried : Tried (.endTest s.id execution retrieve) succeeded attempts) :
      Step ⟨s, some test⟩ (.finish verdict retrieve) attempts ⟨s.past test.path, none⟩
  | ended {s : Session} {upload succeeded : Bool} {attempts : List Attempt}
      (accepted : s.CanEnd) (tried : Tried (.endRun s.id upload) succeeded attempts) :
      Step ⟨s, none⟩ (.endRun upload) attempts ⟨s.closed, none⟩

namespace Holding

theorem play_start_step {client : Client σ} (steady : client.clock.Steady) (path : String)
    (s : Session) (w : σ) :
    let next := play client.heard (.start path) ⟨s, none⟩ (w, [])
    Step ⟨s, none⟩ (.start path) next.2.2 next.1 := by
  by_cases accepted : s.CanStart path
  · simp only [play, Session.startTest_accepted client.heard (w, []) accepted]
    rcases asked : (withRetry "start test" (client.heard.service.startTest s.id path)).outcome
      (w, []) with ⟨h | a, w', attempts⟩
    · exact .notStarted accepted (withRetry_tried asked)
    · obtain ⟨now, w'', read⟩ := steady w'
      simp only [Client.heard, Clock.onFst, outcome_onFst, read]
      exact .started now accepted (withRetry_tried asked)
  · obtain ⟨m, refused⟩ := Session.startTest_refused client.heard (w, []) accepted
    simp only [play, refused]
    exact .idle (fun h => accepted h.2) rfl (.inl rfl)

theorem play_finish_step {client : Client σ} (steady : client.clock.Steady) (verdict : Verdict)
    (retrieve : Bool) (s : Session) (test : RunningTest) (w : σ) :
    let next := play client.heard (.finish verdict retrieve) ⟨s, some test⟩ (w, [])
    Step ⟨s, some test⟩ (.finish verdict retrieve) next.2.2 next.1 := by
  obtain ⟨now, w', read⟩ := steady w
  simp only [play, RunningTest.finish_eq, Session.outcome_finish]
  simp only [Client.heard, Clock.onFst, outcome_onFst, read]
  exact .finished rfl (withRetry_tried rfl)

theorem play_endRun_step (client : Client σ) (upload : Bool) (s : Session) (w : σ) :
    let next := play client.heard (.endRun upload) ⟨s, none⟩ (w, [])
    Step ⟨s, none⟩ (.endRun upload) next.2.2 next.1 := by
  by_cases accepted : s.CanEnd
  · simp only [play, Session.endRun_accepted client.heard upload (w, []) accepted]
    exact .ended accepted (withRetry_tried rfl)
  · obtain ⟨m, refused⟩ := Session.endRun_refused client.heard upload (w, []) accepted
    simp only [play, refused]
    exact .idle (fun h => accepted h.2) rfl (.inl rfl)

theorem play_step {client : Client σ} (steady : client.clock.Steady) (m : Move) (h : Holding)
    (w : σ) :
    let next := h.play client.heard m (w, [])
    Step h m next.2.2 next.1 := by
  obtain ⟨s, running⟩ := h
  cases m with
  | start path =>
    cases running with
    | none => exact play_start_step steady path s w
    | some test => exact .idle (fun h => nomatch h.1) rfl (.inr rfl)
  | finish verdict retrieve =>
    cases running with
    | none => exact .idle (fun h => nomatch h) rfl (.inr rfl)
    | some test => exact play_finish_step steady verdict retrieve s test w
  | letGo =>
    cases running with
    | none => exact .idle id rfl (.inr rfl)
    | some test => exact .idle id rfl (.inl rfl)
  | endRun upload =>
    cases running with
    | none => exact play_endRun_step client upload s w
    | some test => exact .idle (fun h => nomatch h.1) rfl (.inr rfl)

theorem Sound.step {h h' : Holding} {m : Move} {attempts : List Attempt} (sound : h.Sound)
    (step : Step h m attempts h') : h'.Sound := by
  cases step with
  | idle refused same lent =>
    refine ⟨fun test out => ?_, by rw [same]; exact sound.active_fresh,
      by rw [same]; exact sound.ended_idle⟩
    rw [same]
    rcases lent with lent | lent <;> rw [lent] at out
    · cases out
    · exact sound.running_active test out
  | started since accepted tried =>
    refine ⟨fun test out => ?_, fun path active => ?_, fun ended => ?_⟩
    · cases out
      rfl
    · cases active
      exact accepted.2.2
    · exact absurd ended (by simp [Session.begun, accepted.1])
  | notStarted accepted tried => exact sound
  | finished named tried =>
    refine ⟨fun _ out => ?_, fun _ active => ?_, fun _ => rfl⟩
    · cases out
    · cases active
  | ended accepted tried =>
    refine ⟨fun _ out => ?_, sound.active_fresh, fun _ => accepted.2⟩
    cases out

theorem play_noted (note : {α : Type} → Call → Except (Halt Error) α → ω) (client : Client σ)
    (m : Move) (h : Holding) (w : σ) (notes : List ω) :
    let noted := h.play (client.noted note) m (w, notes)
    (noted.1, noted.2.1) = h.play client m w := by
  obtain ⟨s, running⟩ := h
  cases m with
  | start path =>
    cases running with
    | some test => rfl
    | none =>
      by_cases accepted : s.CanStart path
      · have same := withRetry_noted "start test" (note (.startTest s.id path))
          (client.service.startTest s.id path) w notes
        simp only [play, Session.startTest_accepted _ _ accepted, Client.noted, Service.noted]
        rcases listened : (withRetry "start test" ((client.service.startTest s.id path).noted
          (note (.startTest s.id path)))).outcome (w, notes) with ⟨h | _, w', notes'⟩
        · rw [listened] at same
          simp only [← same]
        · rw [listened] at same
          rcases read : client.clock.stopwatch.outcome w' with ⟨_ | now, w''⟩ <;>
            simp only [← same, Clock.onFst, outcome_onFst, read]
      · obtain ⟨_, refused⟩ := Session.startTest_refused client w accepted
        obtain ⟨_, refused'⟩ := Session.startTest_refused (client.noted note) (w, notes) accepted
        simp only [play, refused, refused']
        rfl
  | finish verdict retrieve =>
    cases running with
    | none => rfl
    | some test =>
      simp only [play, RunningTest.finish_eq, Session.outcome_finish, Client.noted, Clock.onFst,
        outcome_onFst, Service.noted]
      rcases read : client.clock.stopwatch.outcome w with ⟨_ | now, w'⟩
      · rfl
      · dsimp only
        rw [← withRetry_noted "end test"
          (note (.endTest s.id (Session.report test verdict now) retrieve)) _ w' notes]
  | letGo => cases running <;> rfl
  | endRun upload =>
    cases running with
    | some test => rfl
    | none =>
      by_cases accepted : s.CanEnd
      · simp only [play, Session.endRun_accepted _ _ _ accepted, Client.noted, Service.noted]
        rw [← withRetry_noted "end test run" (note (.endRun s.id upload)) _ w notes]
      · obtain ⟨_, refused⟩ := Session.endRun_refused client upload w accepted
        obtain ⟨_, refused'⟩ :=
          Session.endRun_refused (client.noted note) upload (w, notes) accepted
        simp only [play, refused, refused']

theorem play_heard (client : Client σ) (m : Move) (h : Holding) (w : σ)
    (notes : List Attempt) :
    let heard := h.play client.heard m (w, notes)
    (heard.1, heard.2.1) = h.play client m w := by
  rw [Client.heard_eq]
  exact h.play_noted Attempt.of client m w notes

theorem Sound.play {client : Client σ} (steady : client.clock.Steady) {h : Holding}
    (sound : h.Sound) (m : Move) (w : σ) : (h.play client m w).1.Sound := by
  rw [← h.play_heard client m w []]
  exact sound.step (h.play_step steady m w)

end Holding

namespace Holding.Step

variable {h h' : Holding} {m : Move} {attempts : List Attempt}

theorem canStart_of_mem (step : Step h m attempts h') {a : Attempt} (member : a ∈ attempts)
    {id path : String} (asked : a.call = .startTest id path) : h.session.CanStart path := by
  cases step with
  | idle refused same lent => cases member
  | started since accepted tried | notStarted accepted tried =>
    cases (tried.mem member).symm.trans asked
    exact accepted
  | finished named tried | ended accepted tried => cases (tried.mem member).symm.trans asked

theorem running_of_mem (step : Step h m attempts h') {a : Attempt} (member : a ∈ attempts)
    {id : String} {execution : Execution} {retrieve : Bool}
    (asked : a.call = .endTest id execution retrieve) :
    id = h.session.id ∧ (∃ test, h.running = some test ∧ test.path = execution.path) ∧
      ∀ b ∈ attempts, b.Ends id execution.path := by
  cases step with
  | idle refused same lent => cases member
  | started since accepted tried | notStarted accepted tried | ended accepted tried =>
    cases (tried.mem member).symm.trans asked
  | finished named tried =>
    cases (tried.mem member).symm.trans asked
    exact ⟨rfl, ⟨_, rfl, named.symm⟩, fun b other => ⟨_, _, tried.mem other, rfl⟩⟩

theorem ends_of_active (step : Step h m attempts h') (sound : h.Sound) {path : String}
    (active : h.session.active = some path) {a : Attempt} (member : a ∈ attempts) :
    a.Ends h.session.id path := by
  cases step with
  | idle refused same lent => cases member
  | started since accepted tried | notStarted accepted tried =>
    cases accepted.2.1.symm.trans active
  | finished named tried =>
    cases (sound.running_active _ rfl).symm.trans active
    exact ⟨_, _, tried.mem member, named⟩
  | ended accepted tried => cases accepted.2.symm.trans active

theorem tried_of_accepts (step : Step h m attempts h') (accepted : h.Accepts m) :
    ∃ call succeeded, Tried call succeeded attempts := by
  cases step with
  | idle refused same lent => exact absurd accepted refused
  | started since accepted tried => exact ⟨_, _, tried⟩
  | notStarted accepted tried => exact ⟨_, _, tried⟩
  | finished named tried => exact ⟨_, _, tried⟩
  | ended accepted tried => exact ⟨_, _, tried⟩

theorem silent_of_refused (step : Step h m attempts h') (refused : ¬ h.Accepts m) :
    attempts = [] := by
  cases step with
  | idle refused same lent => rfl
  | started since accepted tried | notStarted accepted tried | ended accepted tried =>
    exact absurd ⟨rfl, accepted⟩ refused
  | finished named tried => exact absurd rfl refused

theorem finished_subset (step : Step h m attempts h') :
    h.session.finished ⊆ h'.session.finished := by
  intro path ran
  cases step with
  | idle refused same lent => rwa [same]
  | finished named tried => exact List.mem_insert_of_mem ran
  | started since accepted tried | notStarted accepted tried | ended accepted tried => exact ran

theorem ran_of_finish (step : Step h m attempts h') {test : RunningTest} {verdict : Verdict}
    {retrieve : Bool} (running : h.running = some test) (move : m = .finish verdict retrieve) :
    test.path ∈ h'.session.finished := by
  cases step with
  | idle refused same lent =>
    subst move
    exact absurd (by simp [Holding.Accepts, running]) refused
  | finished named tried =>
    cases running
    exact List.mem_insert_self
  | started since accepted tried | notStarted accepted tried | ended accepted tried => cases running

theorem of_endRun {upload : Bool} (step : Step h (.endRun upload) attempts h')
    (accepted : h.Accepts (.endRun upload)) :
    (∀ a ∈ attempts, a.call = .endRun h.session.id upload) ∧ h'.session.ended = true := by
  cases step with
  | idle refused same lent => exact absurd accepted refused
  | ended accepted tried => exact ⟨fun a member => tried.mem member, rfl⟩

theorem same_id (step : Step h m attempts h') : h'.session.id = h.session.id := by
  cases step with
  | idle refused same lent => rw [same]
  | started since accepted tried | notStarted accepted tried | finished named tried
  | ended accepted tried => rfl

theorem ended_of_ended (step : Step h m attempts h') (ended : h.session.ended = true) :
    h'.session.ended = true := by
  cases step with
  | idle refused same lent => rwa [same]
  | started since accepted tried | notStarted accepted tried | finished named tried => exact ended
  | ended accepted tried => rfl

end Holding.Step

theorem Holding.play_id {client : Client σ} (steady : client.clock.Steady) (m : Move) (h : Holding)
    (w : σ) : (h.play client m w).1.session.id = h.session.id := by
  rw [← h.play_heard client m w []]
  exact (h.play_step steady m w).same_id

structure Turn where
  held : Holding
  move : Move
  attempts : List Attempt

def Holding.turns (client : Client σ) : List Move → Holding → σ → List Turn
  | [], _, _ => []
  | m :: moves, h, w =>
    let (h', w', attempts) := h.play client.heard m (w, [])
    ⟨h, m, attempts⟩ :: h'.turns client moves w'

inductive Course : Holding → List Turn → Prop
  | stop {h : Holding} : Course h []
  | turn {h h' : Holding} {m : Move} {attempts : List Attempt} {turns : List Turn}
      (sound : h.Sound) (step : h.Step m attempts h') (rest : Course h' turns) :
      Course h (⟨h, m, attempts⟩ :: turns)

theorem Holding.turns_course {client : Client σ} (steady : client.clock.Steady)
    (moves : List Move) {h : Holding} (sound : h.Sound) (w : σ) :
    Course h (h.turns client moves w) := by
  induction moves generalizing h w with
  | nil => exact .stop
  | cons m moves ih =>
    have step := h.play_step steady m w
    exact .turn sound step (ih (sound.step step) _)

theorem Course.at_turn {h : Holding} {before after : List Turn} {t : Turn}
    (course : Course h (before ++ t :: after)) :
    t.held.Sound ∧ ∃ h', t.held.Step t.move t.attempts h' ∧ Course h' after := by
  induction before generalizing h with
  | nil =>
    cases course with
    | turn sound step rest => exact ⟨sound, _, step, rest⟩
  | cons first before ih =>
    cases course with
    | turn sound step rest => exact ih rest

end TestImpact
