import TestImpact.Proofs.Collection.Separation

namespace TestImpact

open Action

variable {ε σ α : Type}

namespace Collector

variable {setup : Setup σ} {past : σ → Past}

/-- Two collectors that are in the same state as far as one session can tell. -/
structure Alike (id : String) (c : Collector) (p : Past) (c' : Collector) (p' : Past) : Prop where
  known : c'.known = c.known
  issued : c'.arena.issued = c.arena.issued
  given : p'.given = p.given
  session : c'.sessions.get? id = c.sessions.get? id
  snapshot : c'.arena.get? id = c.arena.get? id
  calls : ∀ s : Snapshot, s.session = id ∨ c.arena.issued < s.token →
    p'.callsFor s = p.callsFor s

namespace Confined

variable {c c' : Collector} {p p' : Past} {id other : String}

theorem given (confined : Confined id c p c' p') : p'.given = p.given := by
  rcases confined.past with rfl | ⟨q, -, rfl⟩ <;> rfl

theorem grounded (confined : Confined id c p c' p') (grounded : Grounded setup past c p) :
    Grounded setup past c' p' := by
  constructor
  · rcases confined.arena with arena | arena <;> rw [arena]
    · exact grounded.numbered
    · exact grounded.numbered.release id
  · intro other s held
    rw [confined.given]
    rcases confined.arena with arena | arena
    · rw [arena] at held
      exact grounded.given other s held
    · rw [arena, Arena.get?_release] at held
      split at held
      · cases held
      · exact grounded.given other s held

theorem alike (confined : Confined other c p c' p') (apart : id ≠ other)
    (numbered : c.arena.Numbered) : Alike id c p c' p' where
  known := confined.known
  issued := by rcases confined.arena with arena | arena <;> rw [arena]; rfl
  given := confined.given
  session := confined.sessions id apart
  snapshot := by
    rcases confined.arena with arena | arena <;> rw [arena]
    rw [Arena.get?_release, if_neg apart]
  calls s here := by
    rcases confined.past with rfl | ⟨q, held, rfl⟩
    · rfl
    · have elsewhere : q.snapshot ≠ s := by
        rintro rfl
        rcases here with rfl | later
        · exact apart (numbered.own other _ held)
        · exact Nat.not_lt.mpr (numbered.counted other _ held).2 later
      rw [Past.callsFor_called, if_neg elsewhere, List.append_nil]

end Confined

namespace Alike

variable {c c' : Collector} {p p' : Past} {id : String}

theorem refl (id : String) (c : Collector) (p : Past) : Alike id c p c p :=
  ⟨rfl, rfl, rfl, rfl, rfl, fun _ _ => rfl⟩

theorem symm (alike : Alike id c p c' p') : Alike id c' p' c p where
  known := alike.known.symm
  issued := alike.issued.symm
  given := alike.given.symm
  session := alike.session.symm
  snapshot := alike.snapshot.symm
  calls s here := (alike.calls s (alike.issued ▸ here)).symm

theorem trans {c'' : Collector} {p'' : Past} (first : Alike id c p c' p')
    (next : Alike id c' p' c'' p'') : Alike id c p c'' p'' where
  known := next.known.trans first.known
  issued := next.issued.trans first.issued
  given := next.given.trans first.given
  session := next.session.trans first.session
  snapshot := next.snapshot.trans first.snapshot
  calls s here := (next.calls s (first.issued.symm ▸ here)).trans (first.calls s here)

theorem called (alike : Alike id c p c' p') (q : Recorder.Call) :
    Alike id c (p.called q) c' (p'.called q) :=
  { alike with
    calls := fun s here => by rw [Past.callsFor_called, Past.callsFor_called, alike.calls s here] }

theorem gave (alike : Alike id c p c' p') :
    Alike id c { p with given := p.given + 1 } c' { p' with given := p'.given + 1 } :=
  { alike with given := congrArg (· + 1) alike.given }

theorem announced (alike : Alike id c p c' p') (request : Registration) :
    Alike id (c.announced request) p (c'.announced request) p' :=
  { alike with known := by rw [Collector.announced, Collector.announced, alike.known] }

theorem setRecord (alike : Alike id c p c' p') (other : String) (r : SessionRecord) :
    Alike id (c.setRecord other r) p (c'.setRecord other r) p' :=
  { alike with session := by rw [get?_setRecord, get?_setRecord, alike.session] }

theorem without (alike : Alike id c p c' p') : Alike id (c.without id) p (c'.without id) p' :=
  { alike with
    session := by simp
    snapshot := by simp }

theorem admitted (alike : Alike id c p c' p') {new : String} (absent : c.arena.get? new = none)
    (absent' : c'.arena.get? new = none) : Alike id (c.admitted new) p (c'.admitted new) p' where
  known := alike.known
  issued := by
    simp only [Collector.admitted, Arena.allocate_of_none, absent, absent', alike.issued]
  given := alike.given
  session := alike.session
  snapshot := by
    rw [get?_admitted, get?_admitted, Arena.allocate_of_none absent,
      Arena.allocate_of_none absent', alike.issued, alike.snapshot]
  calls s here := by
    refine alike.calls s (here.imp_right fun later => ?_)
    simp only [Collector.admitted, Arena.allocate_of_none, absent] at later
    omega

end Alike

structure Agree (past : σ → Past) (id : String) (x x' : Except (Halt Error) α × Collector × σ) :
    Prop where
  result : x'.1 = x.1
  alike : Alike id x.2.1 (past x.2.2) x'.2.1 (past x'.2.2)

theorem Agree.map {β : Type} {id : String} {x x' : Action Error (Collector × σ) α}
    {s s' : Collector × σ} (agree : Agree past id (x.outcome s) (x'.outcome s')) (f : α → β) :
    Agree past id ((f <$> x).outcome s) ((f <$> x').outcome s') := by
  rw [outcome_map, outcome_map]
  rcases ran : x.outcome s with ⟨result, c, w⟩
  rcases ran' : x'.outcome s' with ⟨result', c', w'⟩
  rw [ran, ran'] at agree
  cases agree.result
  cases result with
  | error h => exact ⟨rfl, agree.alike⟩
  | ok a => exact ⟨rfl, agree.alike⟩

namespace Setup.Separate

variable {c c' : Collector} {w w' : σ} {id : String}

theorem register (separate : setup.Separate past) (alike : Alike id c (past w) c' (past w'))
    (grounded : Grounded setup past c (past w)) (grounded' : Grounded setup past c' (past w'))
    (request : Registration) :
    Agree past id ((Collector.register setup request).outcome (c, w))
      ((Collector.register setup request).outcome (c', w')) := by
  have announced := (alike.announced request).gave
  have plan : c'.planFor request = c.planFor request := by
    unfold Collector.planFor
    rw [alike.known]
  have same := separate.given w w' alike.given.symm
  have gave := separate.freshId w
  have gave' := separate.freshId w'
  rw [outcome_register, outcome_register]
  rcases fresh : setup.freshId.outcome w with ⟨answer, w₁⟩
  rcases fresh' : setup.freshId.outcome w' with ⟨answer', w₁'⟩
  rw [fresh, fresh'] at same
  rw [fresh] at gave
  rw [fresh'] at gave'
  cases same
  rw [← gave, ← gave'] at announced
  cases answer with
  | error h => exact ⟨rfl, announced⟩
  | ok new =>
    have absent := grounded.absent separate (congrArg Prod.fst fresh)
    have absent' := grounded'.absent separate (congrArg Prod.fst fresh')
    have admitted := announced.admitted absent absent'
    have snapshot : (c'.arena.allocate new).1 = (c.arena.allocate new).1 := by
      rw [Arena.allocate_of_none absent, Arena.allocate_of_none absent', alike.issued]
    have later : c.arena.issued < (c.arena.allocate new).1.token := by
      rw [Arena.allocate_of_none absent]
      exact Nat.lt_succ_self _
    obtain ⟨answer, w₂, w₂', reset, reset', past₂, past₂'⟩ :=
      (separate.reset (c.arena.allocate new).1).both (announced.calls _ (.inr later))
    simp only [snapshot, reset, reset']
    have called := admitted.called (.reset (c.arena.allocate new).1)
    rw [← past₂, ← past₂'] at called
    cases answer with
    | error h => exact ⟨rfl, called⟩
    | ok _ => exact ⟨by rw [plan], called.setRecord new {}⟩

theorem startTest (separate : setup.Separate past) (alike : Alike id c (past w) c' (past w'))
    (numbered : c.arena.Numbered) (path : String) :
    Agree past id ((Collector.startTest setup id path).outcome (c, w))
      ((Collector.startTest setup id path).outcome (c', w')) := by
  rw [outcome_startTest, outcome_startTest, alike.session, alike.snapshot]
  rcases found : c.sessions.get? id with _ | ⟨_ | active, executions⟩
  · exact ⟨rfl, alike⟩
  · cases held : c.arena.get? id with
    | none => exact ⟨rfl, alike⟩
    | some s =>
      obtain ⟨answer, w₁, w₁', begun, begun', past₁, past₁'⟩ :=
        (separate.beginWindow s path).both (alike.calls s (.inl (numbered.own id s held)))
      have called := alike.called (.began s path)
      rw [← past₁, ← past₁'] at called
      simp only [begun, begun']
      cases answer with
      | error h => exact ⟨rfl, called⟩
      | ok _ => exact ⟨rfl, called.setRecord id _⟩
  · exact ⟨rfl, alike⟩

theorem endTest (separate : setup.Separate past) (alike : Alike id c (past w) c' (past w'))
    (numbered : c.arena.Numbered) (execution : Execution) (retrieve : Bool) :
    Agree past id ((Collector.endTest setup id execution retrieve).outcome (c, w))
      ((Collector.endTest setup id execution retrieve).outcome (c', w')) := by
  rw [outcome_endTest, outcome_endTest, alike.session, alike.snapshot]
  rcases found : c.sessions.get? id with _ | r
  · exact ⟨rfl, alike⟩
  · by_cases running : r.active = some execution.path
    · simp only [if_pos running]
      cases held : c.arena.get? id with
      | none => exact ⟨rfl, alike⟩
      | some s =>
        obtain ⟨answer, w₁, w₁', closed, closed', past₁, past₁'⟩ :=
          (separate.endWindow s execution.path).both
            (alike.calls s (.inl (numbered.own id s held)))
        have called := (alike.called (.closed s execution.path)).setRecord id
          { r with active := none }
        rw [← past₁, ← past₁'] at called
        simp only [closed, closed']
        cases answer with
        | error h => exact ⟨rfl, called⟩
        | ok _ => exact ⟨rfl, called.setRecord id _⟩
    · simp only [if_neg running]
      exact ⟨rfl, alike⟩

theorem endRun (separate : setup.Separate past) (alike : Alike id c (past w) c' (past w'))
    (numbered : c.arena.Numbered) (upload : Bool) :
    Agree past id ((Collector.endRun setup id upload).outcome (c, w))
      ((Collector.endRun setup id upload).outcome (c', w')) := by
  rcases found : c.sessions.get? id with _ | r
  · rw [outcome_endRun, outcome_endRun, alike.session, found]
    exact ⟨rfl, alike⟩
  · cases held : c.arena.get? id with
    | none =>
      rw [outcome_endRun, outcome_endRun, alike.session, alike.snapshot, found, held]
      refine ⟨rfl, { alike with session := ?_ }⟩
      rw [Table.get?_erase, Table.get?_erase, if_pos rfl, if_pos rfl]
    | some s =>
      obtain ⟨w₁, past₁, ended⟩ := separate.endRun_written w upload found held
      obtain ⟨w₁', past₁', ended'⟩ := separate.endRun_written w' upload (alike.session.trans found)
        (alike.snapshot.trans held)
      rw [ended, ended']
      rw [← past₁, ← past₁'] at alike
      cases upload with
      | false => exact ⟨rfl, alike.without⟩
      | true =>
        obtain ⟨answer, w₂, w₂', sent, sent', past₂, past₂'⟩ :=
          (separate.deliver id s).both (alike.calls s (.inl (numbered.own id s held)))
        have called := alike.without.called (.built s setup.format)
        rw [← past₂, ← past₂'] at called
        simp only [if_true, sent, sent']
        exact ⟨rfl, called⟩

theorem perform (separate : setup.Separate past) (alike : Alike id c (past w) c' (past w'))
    (grounded : Grounded setup past c (past w)) (grounded' : Grounded setup past c' (past w'))
    {op : Operation} (own : ∀ other, op.session? = some other → other = id) :
    Agree past id ((op.perform setup).outcome (c, w)) ((op.perform setup).outcome (c', w')) := by
  cases op with
  | register request => exact (separate.register alike grounded grounded' request).map _
  | startTest other path =>
    cases own other rfl
    exact (separate.startTest alike grounded.numbered path).map _
  | endTest other execution retrieve =>
    cases own other rfl
    exact (separate.endTest alike grounded.numbered execution retrieve).map _
  | endRun other upload =>
    cases own other rfl
    exact (separate.endRun alike grounded.numbered upload).map _

theorem grounded (separate : setup.Separate past) (grounded : Grounded setup past c (past w))
    (op : Operation) :
    let next := (op.perform setup).outcome (c, w)
    Grounded setup past next.2.1 (past next.2.2) := by
  cases op with
  | startTest | endTest | endRun => exact (separate.confined rfl c w).grounded grounded
  | register request =>
    simp only [Operation.perform, outcome_map_state, outcome_register]
    have gave := separate.freshId w
    rcases fresh : setup.freshId.outcome w with ⟨h | new, w₁⟩ <;> rw [fresh] at gave
    · refine ⟨grounded.numbered, fun id s held => ?_⟩
      obtain ⟨v, before, given⟩ := grounded.given id s held
      exact ⟨v, by simp only [gave]; omega, given⟩
    · have called := (separate.reset (c.arena.allocate new).1).called w₁
      rcases reset : (setup.recorder.reset (c.arena.allocate new).1).outcome w₁ with ⟨h | _, w₂⟩
      all_goals
        rw [reset, gave] at called
        simp only [reset]
        exact grounded.admitted (congrArg Prod.fst fresh) rfl (by simp [called, Past.called])
          (by simp [called, Past.called])

end Setup.Separate

theorem deliver_delivers (setup : Setup σ) (id : String) (s : Snapshot) (w : σ)
    (seen : List Inquiry) :
    ∃ asked, ((deliver setup.observed id s).outcome (w, seen)).2.2 = seen ++ asked ∧
      asked.filterMap Inquiry.delivery? =
        ((setup.recorder.buildReport s setup.format).outcome w).1.toOption.toList := by
  unfold deliver
  simp only [Setup.observed]
  rcases built : (setup.recorder.buildReport s setup.format).outcome w with ⟨h | report, w₁⟩
  · exact ⟨_, by simp [built]; rfl, rfl⟩
  · rcases stored : (setup.store.store report).outcome w₁ with ⟨(e | _) | _, w₂⟩
    all_goals exact ⟨_, by simp [built, stored]; rfl, rfl⟩

def Operation.deliveries (setup : Setup σ) (op : Operation) (c : Collector) (w : σ) :
    List String :=
  ((op.perform setup.observed).outcome (c, w, [])).2.2.2.filterMap Inquiry.delivery?

namespace Setup.Separate

variable {c c' : Collector} {w w' : σ} {id : String}

theorem endRun_deliveries (separate : setup.Separate past) (w : σ) {r : SessionRecord}
    {s : Snapshot} (upload : Bool) (found : c.sessions.get? id = some r)
    (held : c.arena.get? id = some s) :
    ∃ w₁, past w₁ = past w ∧ (Operation.endRun id upload).deliveries setup c w =
      if upload then ((setup.recorder.buildReport s setup.format).outcome w₁).1.toOption.toList
      else [] := by
  have aside := separate.writeExecutions r.executions
  have apart := aside.apart w
  have returns := aside.returns w
  obtain ⟨files, notes, onFiles⟩ := writeExecutions_asks setup r.executions w []
  have wrote := writeExecutions_observed setup r.executions w []
  rw [Operation.deliveries, Operation.perform, outcome_map_state, outcome_endRun, found, held]
  rcases written : (Collector.writeExecutions setup.observed r.executions).outcome (w, [])
    with ⟨result, w₁, seen⟩
  rw [written] at notes wrote
  simp only [List.nil_append] at notes
  subst notes
  rw [← wrote] at apart returns
  simp only [unobserved] at apart returns
  refine ⟨w₁, apart, ?_⟩
  obtain ⟨asked, sent, delivered⟩ := deliver_delivers setup id s w₁ seen
  have quiet : seen.filterMap Inquiry.delivery? = [] :=
    deliveries_of_onFiles (t := ⟨.endRun id upload, .ok .done, seen⟩) onFiles
  rcases result with (e | _) | p
  case error.unwound => exact absurd rfl returns
  all_goals
    simp only [written]
    cases upload with
    | false => exact quiet
    | true => simp [sent, quiet, delivered]

theorem deliveries (separate : setup.Separate past) (alike : Alike id c (past w) c' (past w'))
    (numbered : c.arena.Numbered) {op : Operation}
    (own : ∀ other, op.session? = some other → other = id) :
    op.deliveries setup c' w' = op.deliveries setup c w := by
  have none_of_other (other : ∀ id upload, op ≠ .endRun id upload) (c : Collector) (w : σ) :
      op.deliveries setup c w = [] := by
    obtain ⟨asked, notes, step⟩ := perform_step setup op c w []
    rw [Operation.deliveries, notes]
    exact step.deliveries_eq_nil other
  cases op with
  | register | startTest | endTest => rw [none_of_other nofun, none_of_other nofun]
  | endRun other upload =>
    cases own other rfl
    rcases found : c.sessions.get? id with _ | r
    · simp only [Operation.deliveries, Operation.perform, outcome_map_state, outcome_endRun,
        alike.session, found]
    · cases held : c.arena.get? id with
      | none =>
        simp only [Operation.deliveries, Operation.perform, outcome_map_state, outcome_endRun,
          alike.session, alike.snapshot, found, held]
      | some s =>
        obtain ⟨w₁, past₁, sent⟩ := separate.endRun_deliveries w upload found held
        obtain ⟨w₁', past₁', sent'⟩ := separate.endRun_deliveries w' upload
          (alike.session.trans found) (alike.snapshot.trans held)
        have calls := alike.calls s (.inl (numbered.own id s held))
        rw [← past₁, ← past₁'] at calls
        rw [sent, sent', (separate.buildReport s setup.format).answer w₁ w₁' calls.symm]

end Setup.Separate

structure Share where
  operation : Operation
  result : Result
  deliveries : List String
  before : Option SessionRecord
  after : Option SessionRecord

def Passage.share (id : String) (p : Passage) : Share :=
  ⟨p.turn.operation, p.turn.result, p.turn.deliveries, p.before.sessions.get? id,
    p.after.sessions.get? id⟩

def Operation.concerns (id : String) (op : Operation) : Bool := op.session?.all (· = id)

theorem passages_cons (setup : Setup σ) (op : Operation) (ops : List Operation) (c : Collector)
    (w : σ) :
    ∃ p, passages setup (op :: ops) c w =
        p :: passages setup ops ((op.perform setup).outcome (c, w)).2.1
          ((op.perform setup).outcome (c, w)).2.2 ∧
      p.turn.operation = op ∧
      ∀ id, p.share id = ⟨op, ((op.perform setup).outcome (c, w)).1, op.deliveries setup c w,
        c.sessions.get? id, ((op.perform setup).outcome (c, w)).2.1.sessions.get? id⟩ := by
  have same := op.perform_observed setup c w []
  refine ⟨⟨c, ⟨op, ((op.perform setup.observed).outcome (c, w, [])).1,
    ((op.perform setup.observed).outcome (c, w, [])).2.2.2⟩,
    ((op.perform setup.observed).outcome (c, w, [])).2.1⟩, ?_, rfl, fun id => ?_⟩
  · rw [← same]
    rfl
  · rw [← same]
    rfl

theorem Setup.Separate.isolated (separate : setup.Separate past) {c c' : Collector} {w w' : σ}
    {id : String} (alike : Alike id c (past w) c' (past w'))
    (grounded : Grounded setup past c (past w)) (grounded' : Grounded setup past c' (past w'))
    (ops : List Operation) :
    ((passages setup ops c w).filter (·.turn.operation.concerns id)).map (Passage.share id) =
        (passages setup (ops.filter (Operation.concerns id)) c' w').map (Passage.share id) ∧
      (after setup (ops.filter (Operation.concerns id)) c' w').1.sessions.get? id =
        (after setup ops c w).1.sessions.get? id := by
  induction ops generalizing c c' w w' with
  | nil => exact ⟨rfl, alike.session⟩
  | cons op ops ih =>
    obtain ⟨p, split, operation, share⟩ := passages_cons setup op ops c w
    have further := separate.grounded grounded op
    rw [split, after]
    cases concerns : op.concerns id with
    | true =>
      -- Both runs perform it, and both get the same answer.
      have own : ∀ other, op.session? = some other → other = id := fun other about => by
        simpa [Operation.concerns, about] using concerns
      obtain ⟨result, alike'⟩ := separate.perform alike grounded grounded' own
      obtain ⟨p', split', operation', share'⟩ :=
        passages_cons setup op (ops.filter (Operation.concerns id)) c' w'
      obtain ⟨shares, last⟩ := ih alike' further (separate.grounded grounded' op)
      have same : p.share id = p'.share id := by
        rw [share, share', result, alike'.session, alike.session,
          separate.deliveries alike grounded.numbered own]
      rw [List.filter_cons_of_pos (by rw [operation, concerns]), List.filter_cons_of_pos concerns,
        split', after, List.map_cons, List.map_cons, same, shares]
      exact ⟨rfl, last⟩
    | false =>
      -- Only the first run performs it, and this session cannot tell.
      obtain ⟨other, about, apart⟩ : ∃ other, op.session? = some other ∧ id ≠ other := by
        cases about : op.session? with
        | none => simp [Operation.concerns, about] at concerns
        | some other =>
          exact ⟨other, rfl, by simpa [Operation.concerns, about, eq_comm] using concerns⟩
      have aside := (separate.confined about c w).alike apart grounded.numbered
      rw [List.filter_cons_of_neg (by simp [operation, concerns]),
        List.filter_cons_of_neg (by simp [concerns])]
      exact ih (aside.symm.trans alike) further grounded'

/-- Sessions of one collector do not influence each other: if all that is asked for other sessions
    is left out, but for their registrations, a session sees no difference. -/
theorem sessions_do_not_interfere (setup : Setup σ) (past : σ → Past)
    (separate : setup.Separate past) (ops : List Operation) (w : σ) (id : String) :
    ((passages setup ops {} w).filter (·.turn.operation.concerns id)).map (Passage.share id) =
        (passages setup (ops.filter (Operation.concerns id)) {} w).map (Passage.share id) ∧
      (after setup (ops.filter (Operation.concerns id)) {} w).1.sessions.get? id =
        (after setup ops {} w).1.sessions.get? id :=
  have grounded : Grounded setup past {} (past w) := ⟨Arena.numbered_empty, nofun⟩
  separate.isolated (.refl id {} (past w)) grounded grounded ops

end Collector

def Past.answering (q : Recorder.Call) (answer : Nat → Except (Halt ε) α) : Action ε Past α :=
  fun p => ⟨answer (p.callsFor q.snapshot).length, p.called q, []⟩

theorem Past.asks_answering (q : Recorder.Call) (answer : Nat → Except (Halt ε) α) :
    Asks id q (answering q answer) :=
  ⟨fun _ _ same => congrArg (fun calls : List Recorder.Call => answer calls.length) same,
    fun _ => rfl⟩

namespace Collector

def Setup.counting : Setup Past where
  recorder :=
    { reset := fun s => Past.answering (.reset s) fun _ => .ok ()
      beginWindow := fun s path => Past.answering (.began s path) fun n =>
        if n % 2 = 0 then .error (.failed (.connectivity "recorder" "refused")) else .ok ()
      endWindow := fun s path => Past.answering (.closed s path) fun n => .ok (toString n)
      buildReport := fun s format => Past.answering (.built s format) fun n => .ok (toString n) }
  store := ⟨"nowhere", fun _ => .done (.uploaded "nowhere")⟩
  format := .testwise
  disk := ⟨fun _ => .done (), fun _ _ => .done (), fun _ => .done ""⟩
  clock := ⟨.done 0, .done 0⟩
  freshId := .step fun p => (toString p.given, { p with given := p.given + 1 })

theorem Setup.counting_separate : Setup.counting.Separate id where
  reset s := Past.asks_answering (.reset s) fun _ => .ok ()
  beginWindow s path := by
    simp only [Setup.counting]
    exact Past.asks_answering ..
  endWindow s path := Past.asks_answering (.closed s path) fun n => .ok (toString n)
  buildReport s format := Past.asks_answering (.built s format) fun n => .ok (toString n)
  store _ _ _ := rfl
  stored _ _ := rfl
  ensureDirectory _ := .pure ()
  write _ _ := .pure ()
  epochMillis := .pure 0
  freshId _ := rfl
  given w w' same := by
    show Except.ok (toString w.given) = Except.ok (toString w'.given)
    rw [show w.given = w'.given from same]
  fresh w w' given one other := by
    have same : toString w.given = toString w'.given :=
      Except.ok.inj (one.trans other.symm)
    have digits : Nat.toDigits 10 w.given = Nat.toDigits 10 w'.given := by
      simpa using congrArg String.toList same
    have back := congrArg (Nat.ofDigitChars 10 · 0) digits
    simpa [Nat.ofDigitChars_toDigits] using back

def Operation.interleaved : List Operation :=
  [.register ⟨none, true, none⟩, .register ⟨none, true, none⟩, .startTest "0" "a",
    .startTest "1" "a", .startTest "1" "b", .endTest "0" ⟨"a", 5, .passed, none⟩ true,
    .endTest "1" ⟨"a", 5, .passed, none⟩ true, .endRun "0" true, .startTest "0" "b",
    .endRun "1" true]

theorem counting_does_not_interfere :
    Setup.counting.Separate id ∧
      ((passages .counting Operation.interleaved {} {}).filter
          (·.turn.operation.concerns "1")).map (Passage.share "1") =
        (passages .counting (Operation.interleaved.filter (Operation.concerns "1")) {} {}).map
          (Passage.share "1") ∧
      (after .counting (Operation.interleaved.filter (Operation.concerns "1")) {}
          {}).1.sessions.get? "1" =
        (after .counting Operation.interleaved {} {}).1.sessions.get? "1" :=
  ⟨Setup.counting_separate,
    sessions_do_not_interfere .counting id Setup.counting_separate Operation.interleaved {} "1"⟩

example :
    (passages .counting Operation.interleaved {} {}).map (·.turn.deliveries) =
      [[], [], [], [], [], [], [], ["3"], [], ["3"]] := by
  decide +kernel

end Collector

end TestImpact
