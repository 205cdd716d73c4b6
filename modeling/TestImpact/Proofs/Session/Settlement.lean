import TestImpact.Proofs.Session.Replies

namespace TestImpact

open Action

variable {σ : Type}

/-- That there is no coverage is no misuse, so a misuse comes from the end of the test itself. -/
theorem Session.of_received_misuse {ended : Except (Halt Error) (Option Attribution)}
    {test : RunningTest} {retrieve : Bool} {v : Misuse}
    (given : ended.bind (received test retrieve) = .error (.failed (.misuse v))) :
    ended = .error (.failed (.misuse v)) := by
  rcases ended with h | info
  · exact congrArg Except.error (Except.error.inj given)
  · cases retrieve <;> cases info <;> cases given

namespace Holding

def after (client : Client σ) : List Move → Holding → σ → Holding × σ
  | [], h, w => (h, w)
  | m :: moves, h, w =>
    let (h', w') := h.play client m w
    h'.after client moves w'

/-- What its owner gets for a move. A move that is ruled out is not made, and gets nothing. -/
def answer (client : Client σ) : Move → Holding → σ → Except (Halt Error) Unit
  | .start path, ⟨s, none⟩, w =>
    ((Session.startTest client path).outcome (s, w)).1.map fun _ => ()
  | .finish verdict retrieve, ⟨s, some test⟩, w =>
    ((Session.ending client test verdict retrieve).outcome (s, w)).1
  | .endRun upload, ⟨s, none⟩, w => ((Session.endRun client upload).outcome (s, w)).1
  | _, _, _ => .ok ()

/-- If a move is a misuse, either the session finds that before it asks anybody, or it was the other
    side that called it one, in its last reply. -/
def Blamed (h : Holding) (replies : List Reply) (answer : Except (Halt Error) Unit)
    (h' : Holding) : Prop :=
  ∀ v, answer = .error (.failed (.misuse v)) →
    replies = [] ∧ h'.session = h.session ∨
      ∃ earlier call, replies = earlier ++ [⟨call, .error (.failed (.misuse v))⟩]

structure Settles (h : Holding) (m : Move) (replies : List Reply)
    (answer : Except (Halt Error) Unit) (h' : Holding) : Prop where
  blamed : Blamed h replies answer h'
  failed_start : ∀ path e, m = .start path → answer = .error e → h'.session = h.session
  finished : ∀ test verdict retrieve, h.running = some test → m = .finish verdict retrieve →
    h'.session = { h.session with active := none, finished := test.path :: h.session.finished }
  ended : ∀ upload, m = .endRun upload → h.Accepts m →
    h'.session = { h.session with ended := true }

section Blame

variable {h h' : Holding} {replies : List Reply} {answer : Except (Halt Error) Unit}

theorem Blamed.unasked (same : h'.session = h.session) : Blamed h [] answer h' :=
  fun _ _ => .inl ⟨rfl, same⟩

theorem Blamed.replied {operation : String} {call : Call} {result : Except (Halt Error) Unit}
    (replied : Replied operation call replies result)
    (passed : ∀ v, answer = .error (.failed (.misuse v)) → result = .error (.failed (.misuse v))) :
    Blamed h replies answer h' := by
  intro v given
  have heard : (Error.misuse v).isConnectivity = false := rfl
  exact .inr ((replied.error_iff heard nofun).mp (passed v given))

theorem Settles.of_start {path : String} (blamed : Blamed h replies answer h')
    (failed : ∀ e, answer = .error e → h'.session = h.session) :
    Settles h (.start path) replies answer h' where
  blamed := blamed
  failed_start _ e _ given := failed e given
  finished _ _ _ _ same := by cases same
  ended _ same := by cases same

theorem Settles.of_finish {test : RunningTest} {verdict : Verdict} {retrieve : Bool}
    (blamed : Blamed h replies answer h') (running : h.running = some test)
    (gone : h'.session =
      { h.session with active := none, finished := test.path :: h.session.finished }) :
    Settles h (.finish verdict retrieve) replies answer h' where
  blamed := blamed
  failed_start _ _ same := by cases same
  finished _ _ _ out _ := by
    cases running.symm.trans out
    exact gone
  ended _ same := by cases same

theorem Settles.of_endRun {upload : Bool} (blamed : Blamed h replies answer h')
    (ended : h.Accepts (.endRun upload) → h'.session = { h.session with ended := true }) :
    Settles h (.endRun upload) replies answer h' where
  blamed := blamed
  failed_start _ _ same := by cases same
  finished _ _ _ _ same := by cases same
  ended _ same accepted := by
    cases same
    exact ended accepted

end Blame

section Moves

variable {client : Client σ} {s : Session}

theorem start_settles (steady : client.clock.Steady) (path : String) (s : Session) (w : σ) :
    let told := client.noted Reply.of
    let next := play told (.start path) ⟨s, none⟩ (w, [])
    Settles ⟨s, none⟩ (.start path) next.2.2 (answer told (.start path) ⟨s, none⟩ (w, []))
      next.1 := by
  intro told next
  by_cases accepted : s.CanStart path
  · have replied := withRetry_replied "start test" (.startTest s.id path)
      (client.service.startTest s.id path) w
    have started := Session.startTest_accepted told (w, []) accepted
    change let asked := (withRetry "start test" (told.service.startTest s.id path)).outcome (w, [])
      Replied "start test" (.startTest s.id path) asked.2.2 (asked.1.map fun _ => ()) at replied
    rcases asked : (withRetry "start test" (told.service.startTest s.id path)).outcome (w, [])
      with ⟨e | _, w', replies⟩
    · rw [asked] at replied started
      simp only [next, play, answer, started]
      exact .of_start (.replied replied fun _ given => given) fun _ _ => rfl
    · obtain ⟨now, w'', read⟩ := steady.read_onFst w' replies
      have watch : told.clock.stopwatch.outcome (w', replies) = (.ok now, w'', replies) := read
      rw [asked] at replied started
      simp only [watch] at started
      simp only [next, play, answer, started]
      refine .of_start (.replied replied fun _ given => given) fun _ given => ?_
      cases given
  · obtain ⟨v, refused⟩ := Session.startTest_refused told (w, []) accepted
    simp only [next, play, answer, refused]
    exact .of_start (.unasked rfl) fun _ _ => rfl

theorem finish_settles (steady : client.clock.Steady) (verdict : Verdict) (retrieve : Bool)
    {test : RunningTest} (sound : Sound ⟨s, some test⟩) (w : σ) :
    let told := client.noted Reply.of
    let next := play told (.finish verdict retrieve) ⟨s, some test⟩ (w, [])
    Settles ⟨s, some test⟩ (.finish verdict retrieve) next.2.2
      (answer told (.finish verdict retrieve) ⟨s, some test⟩ (w, [])) next.1 := by
  intro told next
  obtain ⟨now, w', read⟩ := steady.read_onFst w ([] : List Reply)
  have watch : told.clock.stopwatch.outcome (w, []) = (.ok now, w', []) := read
  have replied := withRetry_replied "end test"
    (.endTest s.id (Session.report test verdict now) retrieve)
    (client.service.endTest s.id (Session.report test verdict now) retrieve) w'
  have fresh : test.path ∉ s.finished :=
    sound.active_fresh test.path (sound.running_active test rfl)
  simp only [next, play, answer, RunningTest.finish_eq, Session.outcome_ending,
    Session.outcome_finish, watch]
  refine .of_finish (.replied replied fun v given => ?_) rfl ?_
  · exact map_eq_error.mpr (Session.of_received_misuse given)
  · exact congrArg (fun finished => { s with active := none, finished })
      (List.insert_of_not_mem fresh)

theorem endRun_settles (client : Client σ) (upload : Bool) (s : Session) (w : σ) :
    let told := client.noted Reply.of
    let next := play told (.endRun upload) ⟨s, none⟩ (w, [])
    Settles ⟨s, none⟩ (.endRun upload) next.2.2 (answer told (.endRun upload) ⟨s, none⟩ (w, []))
      next.1 := by
  intro told next
  by_cases accepted : s.CanEnd
  · have replied := withRetry_replied "end test run" (.endRun s.id upload)
      (client.service.endRun s.id upload) w
    simp only [next, play, answer, Session.endRun_accepted told upload (w, []) accepted]
    exact .of_endRun (.replied replied fun _ given => map_eq_error.mpr given) fun _ => rfl
  · obtain ⟨v, refused⟩ := Session.endRun_refused told upload (w, []) accepted
    simp only [next, play, answer, refused]
    exact .of_endRun (.unasked rfl) fun able => absurd able.2 accepted

theorem play_settles (steady : client.clock.Steady) (m : Move) {h : Holding} (sound : h.Sound)
    (w : σ) :
    let told := client.noted Reply.of
    let next := h.play told m (w, [])
    Settles h m next.2.2 (h.answer told m (w, [])) next.1 := by
  obtain ⟨s, running⟩ := h
  -- Moves that are ruled out, and letting go, give nothing and leave the session as it is.
  have idle (m : Move) (h' : Holding) (same : h'.session = s)
      (unaccepted : ¬ Accepts ⟨s, running⟩ m) : Settles ⟨s, running⟩ m [] (.ok ()) h' := by
    refine ⟨nofun, nofun, fun test verdict retrieve out finishes => ?_, fun _ _ accepted => ?_⟩
    · subst finishes
      exact absurd (Option.isSome_iff_exists.mpr ⟨test, out⟩) unaccepted
    · exact absurd accepted unaccepted
  cases m with
  | start path =>
    cases running with
    | none => exact start_settles steady path s w
    | some test => exact idle _ _ rfl (fun accepted => nomatch accepted.1)
  | finish verdict retrieve =>
    cases running with
    | none => exact idle _ _ rfl nofun
    | some test => exact finish_settles steady verdict retrieve sound w
  | letGo => cases running <;> exact idle _ _ rfl id
  | endRun upload =>
    cases running with
    | none => exact endRun_settles client upload s w
    | some test => exact idle _ _ rfl (fun accepted => nomatch accepted.1)

end Moves

end Holding

def Turn.endsTest (t : Turn) : Bool :=
  match t.move with
  | .finish _ _ => t.held.running.isSome
  | _ => false

namespace Holding

variable {client : Client σ}

theorem Step.finished_grows {h h' : Holding} {m : Move} {attempts : List Attempt}
    (sound : h.Sound) (distinct : h.session.finished.Nodup) (step : Step h m attempts h') :
    h'.session.finished.Nodup ∧
      h'.session.finished.length =
        h.session.finished.length + if Turn.endsTest ⟨h, m, attempts⟩ then 1 else 0 := by
  cases step with
  | idle refused same lent =>
    have kept : Turn.endsTest ⟨h, m, []⟩ = false := by
      cases m with
      | finish verdict retrieve => exact Bool.eq_false_iff.mpr refused
      | start | letGo | endRun => rfl
    rw [same, kept]
    exact ⟨distinct, rfl⟩
  | started since accepted tried | notStarted accepted tried | ended accepted tried =>
    exact ⟨distinct, rfl⟩
  | @finished s test verdict retrieve succeeded execution attempts named tried =>
    have fresh : test.path ∉ s.finished :=
      sound.active_fresh test.path (sound.running_active test rfl)
    have one : (s.past test.path).finished = test.path :: s.finished :=
      List.insert_of_not_mem fresh
    rw [one]
    exact ⟨List.nodup_cons.mpr ⟨fresh, distinct⟩, rfl⟩

theorem after_tallied (steady : client.clock.Steady) (moves : List Move) {h : Holding}
    (sound : h.Sound) (distinct : h.session.finished.Nodup) (w : σ) :
    let left := (h.after client moves w).1
    left.Sound ∧ left.session.finished.Nodup ∧
      left.session.finished.length =
        h.session.finished.length + (h.turns client moves w).countP Turn.endsTest := by
  induction moves generalizing h w with
  | nil => exact ⟨sound, distinct, rfl⟩
  | cons m moves ih =>
    have step := h.play_step steady m w
    have same := h.play_heard client m w []
    rcases played : h.play client.heard m (w, []) with ⟨h', w', attempts⟩
    rw [played] at step same
    dsimp only at step same
    obtain ⟨distinct', grown⟩ := step.finished_grows sound distinct
    obtain ⟨still, apart, size⟩ := ih (sound.step step) distinct' w'
    simp only [after, ← same, turns, played, List.countP_cons]
    refine ⟨still, apart, ?_⟩
    omega

/-- What is true of a session in every state that it gets to: its active test did not run before, it
    has none once it is over, and it counts the tests that were ended. -/
structure Tallied (h : Holding) (turns : List Turn) : Prop where
  active_fresh : ∀ path, h.session.active = some path → path ∉ h.session.finished
  ended_idle : h.session.ended = true → h.session.active = none
  distinct : h.session.finished.Nodup
  size : h.session.finished.length = turns.countP Turn.endsTest

/-- Whatever was done with a session before, and whatever the other side answers: what fails before
    anything is asked, and a start that fails, leave the session as it was, and what ends a test or
    the run does so even if it fails. -/
theorem failures_settled (steady : client.clock.Steady) (id : String) (clusters : List Cluster)
    (moves : List Move) (m : Move) (w : σ) :
    let start := opened id clusters
    let reached := start.after client moves w
    let told := client.noted Reply.of
    let next := reached.1.play told m (reached.2, [])
    reached.1.Tallied (start.turns client moves w) ∧
      reached.1.Settles m next.2.2 (reached.1.answer told m (reached.2, [])) next.1 := by
  intro start reached told next
  obtain ⟨sound, distinct, size⟩ :=
    after_tallied steady moves (opened_sound id clusters) List.nodup_nil w
  refine ⟨⟨sound.active_fresh, sound.ended_idle, distinct, ?_⟩, play_settles steady m sound _⟩
  rw [size]
  exact Nat.zero_add _

theorem contrary_failures_settled :
    Client.contrary.clock.Steady ∧
      let start := opened "s" []
      let reached := start.after Client.contrary [.start "a", .finish ⟨.passed, none⟩ true] ()
      let told := Client.contrary.noted Reply.of
      let next := reached.1.play told (.start "a") (reached.2, [])
      reached.1.Tallied
          (start.turns Client.contrary [.start "a", .finish ⟨.passed, none⟩ true] ()) ∧
        reached.1.Settles (.start "a") next.2.2
          (reached.1.answer told (.start "a") (reached.2, [])) next.1 :=
  have steady : Client.contrary.clock.Steady := fun _ => ⟨0, (), rfl⟩
  ⟨steady,
    failures_settled steady "s" [] [.start "a", .finish ⟨.passed, none⟩ true] (.start "a") ()⟩

/-- A misuse may be the other side's own answer, to a call that was made for a test that is over. -/
theorem misuse_found_elsewhere :
    let held := (opened "s" []).after Client.contrary [.start "a"] ()
    let told := Client.contrary.noted Reply.of
    let next := held.1.play told (.finish ⟨.passed, none⟩ false) (held.2, [])
    held.1.answer told (.finish ⟨.passed, none⟩ false) (held.2, []) =
        .error (.failed (.misuse (.other "not now"))) ∧
      next.2.2.map Reply.call = [.endTest "s" ⟨"a", 0, .passed, none⟩ false] ∧
      held.1.session = { id := "s", clusters := [], active := some "a" } ∧
      next.1.session = { id := "s", clusters := [], finished := ["a"] } :=
  ⟨rfl, rfl, rfl, rfl⟩

end Holding

end TestImpact
