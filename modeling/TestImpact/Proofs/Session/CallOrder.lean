import TestImpact.Proofs.Session.Calls

namespace TestImpact

variable {σ : Type} {h h' : Holding} {m : Move} {attempts : List Attempt} {turns : List Turn}

def heard (turns : List Turn) : List Attempt := turns.flatMap Turn.attempts

/-- The session's active test is the one whose start was heard last, and it was heard to succeed. -/
def Remembers (past : List Attempt) (h : Holding) : Prop :=
  ∀ path, h.session.active = some path →
    ∃ earlier, past = earlier ++ [⟨.startTest h.session.id path, true⟩]

namespace Holding.Step

theorem remembers {past : List Attempt} (step : Step h m attempts h') (known : Remembers past h) :
    Remembers (past ++ attempts) h' := by
  intro path active
  cases step with
  | idle refused same lent =>
    rw [same] at active ⊢
    simpa using known path active
  | started since accepted tried =>
    cases active
    obtain ⟨first, rfl⟩ := tried.last
    exact ⟨past ++ first, (List.append_assoc ..).symm⟩
  | notStarted accepted tried => cases accepted.2.1.symm.trans active
  | finished named tried => cases active
  | ended accepted tried => cases accepted.2.symm.trans active

end Holding.Step

namespace Course

theorem silent_of_ended (course : Course h turns) (ended : h.session.ended = true) :
    ∀ t ∈ turns, t.attempts = [] := by
  induction course with
  | stop => simp
  | @turn h h' m attempts turns sound step rest ih =>
    have refused : ¬ h.Accepts m := by
      have idle := sound.ended_idle ended
      cases m with
      | start path => exact fun accepted => absurd ended (by simp [accepted.2.1])
      | finish verdict retrieve =>
        intro out
        obtain ⟨test, running⟩ := Option.isSome_iff_exists.mp out
        rw [sound.running_active test running] at idle
        cases idle
      | letGo => exact id
      | endRun upload => exact fun accepted => absurd ended (by simp [accepted.2.1])
    intro t member
    rcases List.mem_cons.mp member with rfl | member
    · exact step.silent_of_refused refused
    · exact ih (step.ended_of_ended ended) t member

theorem no_start_of_finished (course : Course h turns) {path : String}
    (ran : path ∈ h.session.finished) :
    ∀ t ∈ turns, ∀ a ∈ t.attempts, ∀ id, a.call ≠ .startTest id path := by
  induction course with
  | stop => simp
  | turn sound step rest ih =>
    intro t member
    rcases List.mem_cons.mp member with rfl | member
    · exact fun a heard id asked => (step.canStart_of_mem heard asked).2.2 ran
    · exact ih (step.finished_subset ran) t member

theorem start_before_end (course : Course h turns) {past before after : List Attempt} {a : Attempt}
    (known : Remembers past h) (split : heard turns = before ++ a :: after) {id : String}
    {execution : Execution} {retrieve : Bool} (asked : a.call = .endTest id execution retrieve) :
    ∃ earlier between, past ++ before = earlier ++ ⟨.startTest id execution.path, true⟩ :: between ∧
      ∀ b ∈ between, b.Ends id execution.path := by
  induction course generalizing past before with
  | stop => simp [heard] at split
  | @turn h h' m attempts turns sound step rest ih =>
    have parts : attempts ++ heard turns = before ++ a :: after := split
    -- The end is asked for in a later turn, or in this one by the test that is out.
    rcases List.append_eq_append_iff.mp parts with ⟨more, rfl, later⟩ | ⟨tail, rfl, here⟩
    · obtain ⟨earlier, between, start, ends⟩ := ih (step.remembers known) later
      exact ⟨earlier, between, by rw [← start, List.append_assoc], ends⟩
    · cases tail with
      | nil =>
        have first : heard turns = [] ++ a :: after := here.symm
        obtain ⟨earlier, between, start, ends⟩ := ih (step.remembers known) first
        exact ⟨earlier, between, by simpa using start, ends⟩
      | cons b tail =>
        cases here
        have member : a ∈ before ++ a :: tail := by simp
        obtain ⟨rfl, ⟨test, running, named⟩, ends⟩ := step.running_of_mem member asked
        obtain ⟨earlier, rfl⟩ := known _ (sound.running_active test running)
        refine ⟨earlier, before, ?_, fun b other => ends b (by simp [other])⟩
        simp [named]

theorem step_of_mem (course : Course h turns) {t : Turn} (member : t ∈ turns) :
    t.held.Sound ∧ ∃ h', t.held.Step t.move t.attempts h' := by
  obtain ⟨before, after, rfl⟩ := List.append_of_mem member
  obtain ⟨sound, h', step, rest⟩ := course.at_turn
  exact ⟨sound, h', step⟩

end Course

/-- The protocol of a session's calls at the side that collects coverage. -/
structure Orderly (turns : List Turn) : Prop where
  /-- A test's end is asked for behind its start, which was heard to succeed, with nothing but the
      same question in between. -/
  start_first : ∀ before a after id execution retrieve, heard turns = before ++ a :: after →
    a.call = .endTest id execution retrieve →
    ∃ earlier between, before = earlier ++ ⟨.startTest id execution.path, true⟩ :: between ∧
      ∀ b ∈ between, b.Ends id execution.path
  /-- While a test is active, no test is started and the run is not ended. -/
  only_end_while_active : ∀ t ∈ turns, ∀ path, t.held.session.active = some path →
    ∀ a ∈ t.attempts, a.Ends t.held.session.id path
  /-- A test that was ended is never started again. -/
  no_second_start : ∀ before t after test verdict retrieve, turns = before ++ t :: after →
    t.held.running = some test → t.move = .finish verdict retrieve →
    ∀ u ∈ after, ∀ a ∈ u.attempts, ∀ id, a.call ≠ .startTest id test.path
  /-- What a session accepts is attempted once or twice, and what it refuses is not attempted. -/
  one_or_two : ∀ t ∈ turns,
    (t.held.Accepts t.move → ∃ call succeeded, Tried call succeeded t.attempts) ∧
      (¬ t.held.Accepts t.move → t.attempts = [])
  /-- Once a run was ended, nothing is heard any more but the end's own attempts. -/
  silent_after_end : ∀ before t after upload, turns = before ++ t :: after →
    t.move = .endRun upload → t.held.Accepts t.move →
    (∀ a ∈ t.attempts, a.call = .endRun t.held.session.id upload) ∧ ∀ u ∈ after, u.attempts = []

theorem Course.orderly (course : Course h turns) (known : Remembers [] h) : Orderly turns where
  start_first before a after id execution retrieve split asked := by
    simpa using course.start_before_end known split asked
  only_end_while_active t member path active a asked := by
    obtain ⟨sound, h', step⟩ := course.step_of_mem member
    exact step.ends_of_active sound active asked
  no_second_start before t after test verdict retrieve split running move := by
    subst split
    obtain ⟨sound, h', step, rest⟩ := course.at_turn
    exact rest.no_start_of_finished (step.ran_of_finish running move)
  one_or_two t member := by
    obtain ⟨sound, h', step⟩ := course.step_of_mem member
    exact ⟨step.tried_of_accepts, step.silent_of_refused⟩
  silent_after_end before t after upload split move accepted := by
    subst split
    obtain ⟨sound, h', step, rest⟩ := course.at_turn
    rw [move] at step accepted
    obtain ⟨asked, ended⟩ := step.of_endRun accepted
    exact ⟨asked, rest.silent_of_ended ended⟩

/-- Whatever the other side answers to each attempt, and whatever the owner of a session does, the
    session's calls keep the protocol. -/
theorem session_calls_in_order {client : Client σ} (steady : client.clock.Steady) (id : String)
    (clusters : List Cluster) (moves : List Move) (w : σ) :
    Orderly ((Holding.opened id clusters).turns client moves w) :=
  (Holding.turns_course steady moves (Holding.opened_sound id clusters) w).orderly nofun

def Client.everySecond : Client Nat where
  service :=
    { description := "every second attempt"
      register := fun _ => .everySecond ⟨"s", []⟩
      startTest := fun _ _ => .everySecond ()
      endTest := fun _ _ _ => .everySecond none
      endRun := fun _ _ => .everySecond () }
  clock := ⟨.done 0, .look id⟩

def Move.sample : List Move :=
  [.start "a", .finish ⟨.passed, none⟩ true, .start "a", .endRun true, .start "b", .endRun false]

theorem everySecond_calls_in_order :
    Client.everySecond.clock.Steady ∧
      Orderly ((Holding.opened "s" []).turns Client.everySecond Move.sample 0) :=
  have steady : Client.everySecond.clock.Steady := fun n => ⟨n, n, rfl⟩
  ⟨steady, session_calls_in_order steady "s" [] Move.sample 0⟩

example :
    (heard ((Holding.opened "s" []).turns Client.everySecond Move.sample 0)).map (·.succeeded) =
      [false, true, false, true, false, true] := by decide

end TestImpact
