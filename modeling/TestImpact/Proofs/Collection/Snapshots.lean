import TestImpact.Proofs.Collection.Arena
import TestImpact.Proofs.Collection.Passages
import TestImpact.Proofs.Collection.Windows

namespace TestImpact.Collector

open Action

variable {σ : Type}

def Operation.session? : Operation → Option String
  | register _ => none
  | startTest id _ | endTest id _ _ | endRun id _ => some id

namespace Passage

def registers (p : Passage) : Bool :=
  match p.turn.operation with
  | .register _ => true
  | _ => false

def admits (p : Passage) : Bool := p.registers && p.turn.result.isOk

def removes (p : Passage) : Bool :=
  match p.turn.operation with
  | .endRun id _ => id ∈ p.before.sessions.keys && id ∉ p.after.sessions.keys
  | _ => false

/-- What a passage does to the sessions and to their snapshots. A registration that unwinds may
    leave a snapshot without a session, and nothing leaves a session without a snapshot. -/
inductive Effect : Passage → Prop
  | kept {p : Passage} (sessions : p.after.sessions.keys = p.before.sessions.keys)
      (size : p.after.openSessions = p.before.openSessions)
      (arena : p.after.arena = p.before.arena) (admits : p.admits = false) : Effect p
  | reserved {p : Passage} (id : String) (given : issued p.turn.asked = [id])
      (registers : p.registers = true) (unwound : p.turn.result = .error .unwound)
      (sessions : p.after.sessions = p.before.sessions)
      (arena : p.after.arena = (p.before.arena.allocate id).2) : Effect p
  | admitted {p : Passage} (id : String) (given : issued p.turn.asked = [id])
      (admits : p.admits = true) (sessions : p.after.sessions = p.before.sessions.insert id {})
      (arena : p.after.arena = (p.before.arena.allocate id).2) : Effect p
  | removed {p : Passage} (id : String) (present : id ∈ p.before.sessions.keys)
      (registers : p.registers = false) (removes : p.removes = true)
      (sessions : p.after.sessions = p.before.sessions.erase id)
      (arena : p.after.arena = (p.before.arena.release id).2) : Effect p

end Passage

variable {format : Report.Format} {past : List Passage} {c c' : Collector}

theorem keys_setRecord {id : String} (known : id ∈ c.sessions.keys) (r : SessionRecord) :
    (c.setRecord id r).sessions.keys = c.sessions.keys ∧
      (c.setRecord id r).openSessions = c.openSessions :=
  ⟨Table.keys_insert_of_mem r known, Table.size_insert_of_mem r known⟩

theorem Step.effect {op : Operation} {asked : List Inquiry} {result : Result}
    (step : Step format c op asked result c')
    (held : ∀ id ∈ c.sessions.keys, id ∈ c.arena.live.keys) :
    Passage.Effect ⟨c, ⟨op, result, asked⟩, c'⟩ := by
  cases step with
  | notIssued => exact .kept rfl rfl rfl rfl
  | notReset id => exact .reserved id rfl rfl rfl rfl rfl
  | registered id => exact .admitted id rfl rfl rfl rfl
  | startUnknown | startBusy | notBegun | endUnknown | endNotRunning | runUnknown =>
    exact .kept rfl rfl rfl rfl
  | begun found | notClosed found =>
    obtain ⟨keys, size⟩ := keys_setRecord (Table.mem_keys_iff.mpr ⟨_, found⟩) _
    exact .kept keys size rfl rfl
  | closed found =>
    have known := Table.mem_keys_iff.mpr ⟨_, found⟩
    obtain ⟨keys, size⟩ := keys_setRecord known _
    obtain ⟨keys', size'⟩ := keys_setRecord (keys.symm ▸ known) _
    exact .kept (keys'.trans keys) (size'.trans size) rfl rfl
  | runLost found lost =>
    -- A session without a snapshot is what no collector has.
    have present := held _ (Table.mem_keys_iff.mpr ⟨_, found⟩)
    exact absurd present (Table.get?_eq_none_iff.mp lost)
  | writingUnwound found | ended found | delivered found =>
    have present := Table.mem_keys_iff.mpr ⟨_, found⟩
    refine .removed _ present rfl ?_ rfl rfl
    simp [Passage.removes, present, without, Table.mem_keys_erase]

namespace Passage

variable {p : Passage}

theorem registers_of_admits (admits : p.admits = true) : p.registers = true :=
  (Bool.and_eq_true_iff.mp admits).1

theorem admits_of_unwound (unwound : p.turn.result = .error .unwound) : p.admits = false := by
  simp [admits, unwound]

theorem removes_of_keys (same : p.after.sessions.keys = p.before.sessions.keys) :
    p.removes = false := by
  unfold removes
  cases p.turn.operation <;> simp [same]

theorem removes_of_registers (registers : p.registers = true) : p.removes = false := by
  unfold Passage.registers at registers
  unfold removes
  cases operation : p.turn.operation <;> simp [operation] at registers ⊢

end Passage

theorem fresh_before {later : List Passage} (fresh : (issued (inquiries (past ++ later))).Nodup) :
    (issued (inquiries past)).Nodup := by
  rw [inquiries, List.flatMap_append, issued_append] at fresh
  exact (List.nodup_append.mp fresh).1

theorem countP_concat (f : Passage → Bool) (past : List Passage) (p : Passage) :
    (past ++ [p]).countP f = past.countP f + if f p then 1 else 0 := by
  rw [List.countP_append, List.countP_singleton]

theorem mem_issued_concat {p : Passage} {id : String} :
    id ∈ issued (inquiries (past ++ [p])) ↔
      id ∈ issued (inquiries past) ∨ id ∈ issued p.turn.asked := by
  rw [inquiries_concat, issued_append, List.mem_append]

structure Stocked (past : List Passage) (a : Arena) : Prop where
  numbered : a.Numbered
  counted : a.issued ≤ past.countP Passage.registers
  given : ∀ id ∈ a.live.keys, id ∈ issued (inquiries past)

namespace Stocked

variable {p : Passage}

theorem kept (stocked : Stocked past p.before.arena) (arena : p.after.arena = p.before.arena) :
    Stocked (past ++ [p]) p.after.arena := by
  rw [arena]
  refine ⟨stocked.numbered, ?_, fun id member => ?_⟩
  · rw [countP_concat]
    exact Nat.le_add_right_of_le stocked.counted
  · exact mem_issued_concat.mpr (.inl (stocked.given id member))

theorem allocate (stocked : Stocked past p.before.arena) {id : String}
    (given : issued p.turn.asked = [id]) (registers : p.registers = true)
    (arena : p.after.arena = (p.before.arena.allocate id).2) :
    Stocked (past ++ [p]) p.after.arena := by
  rw [arena]
  refine ⟨stocked.numbered.allocate id, ?_, fun other member => ?_⟩
  · have counted := p.before.arena.issued_allocate id
    have before := stocked.counted
    rw [countP_concat, registers, if_pos rfl]
    omega
  · rcases Arena.mem_keys_allocate.mp member with rfl | member
    · exact mem_issued_concat.mpr (.inr (by simp [given]))
    · exact mem_issued_concat.mpr (.inl (stocked.given other member))

theorem absent_of_fresh (stocked : Stocked past p.before.arena)
    (fresh : (issued (inquiries (past ++ [p]))).Nodup) {id : String}
    (given : id ∈ issued p.turn.asked) : p.before.arena.get? id = none := by
  apply Table.get?_eq_none_iff.mpr
  intro present
  rw [inquiries_concat, issued_append] at fresh
  exact (List.nodup_append.mp fresh).2.2 id (stocked.given id present) id given rfl

theorem release (stocked : Stocked past p.before.arena) {id : String}
    (arena : p.after.arena = (p.before.arena.release id).2) :
    Stocked (past ++ [p]) p.after.arena := by
  rw [arena]
  refine ⟨stocked.numbered.release id, ?_, fun other member => ?_⟩
  · rw [countP_concat]
    exact Nat.le_add_right_of_le stocked.counted
  · exact mem_issued_concat.mpr (.inl (stocked.given other (Table.mem_keys_erase.mp member).2))

end Stocked

structure Accounted (past : List Passage) (c : Collector) : Prop where
  stocked : Stocked past c.arena
  held : ∀ id ∈ c.sessions.keys, id ∈ c.arena.live.keys
  balance : c.openSessions + past.countP Passage.removes = past.countP Passage.admits
  paired : (∀ p ∈ past, p.turn.result ≠ .error .unwound) →
    ∀ id ∈ c.arena.live.keys, id ∈ c.sessions.keys

theorem Accounted.passage {p : Passage} (accounted : Accounted past p.before)
    (effect : p.Effect) (fresh : (issued (inquiries (past ++ [p]))).Nodup) :
    Accounted (past ++ [p]) p.after := by
  have unstopped (calm : ∀ q ∈ past ++ [p], q.turn.result ≠ .error .unwound) :
      ∀ q ∈ past, q.turn.result ≠ .error .unwound :=
    fun q member => calm q (List.mem_append_left _ member)
  cases effect with
  | kept sessions size arena admits =>
    refine ⟨accounted.stocked.kept arena, ?_, ?_, fun calm => ?_⟩
    · rw [arena, sessions]
      exact accounted.held
    · rw [size, countP_concat, countP_concat, Passage.removes_of_keys sessions, admits]
      exact accounted.balance
    · rw [arena, sessions]
      exact accounted.paired (unstopped calm)
  | reserved id given registers unwound sessions arena =>
    refine ⟨accounted.stocked.allocate given registers arena, fun other member => ?_, ?_,
      fun calm => absurd unwound (calm p (by simp))⟩
    · rw [sessions] at member
      rw [arena]
      exact Arena.mem_keys_allocate.mpr (.inr (accounted.held other member))
    · rw [countP_concat, countP_concat, Passage.removes_of_registers registers,
        Passage.admits_of_unwound unwound, openSessions, sessions]
      exact accounted.balance
  | admitted id given admits sessions arena =>
    have registers := Passage.registers_of_admits admits
    have absent : p.before.arena.get? id = none :=
      accounted.stocked.absent_of_fresh fresh (by simp [given])
    have new : id ∉ p.before.sessions.keys := fun present =>
      Table.get?_eq_none_iff.mp absent (accounted.held id present)
    refine ⟨accounted.stocked.allocate given registers arena, fun other member => ?_, ?_,
      fun calm other member => ?_⟩
    · rw [sessions, Table.mem_keys_insert] at member
      rw [arena]
      exact Arena.mem_keys_allocate.mpr (member.imp_right (accounted.held other))
    · have balance := accounted.balance
      rw [countP_concat, countP_concat, Passage.removes_of_registers registers, admits,
        openSessions, sessions, Table.size_insert_of_not_mem _ new]
      simp only [openSessions] at balance
      simp only [Bool.false_eq_true, if_true, if_false]
      omega
    · rw [arena, Arena.mem_keys_allocate] at member
      rw [sessions]
      exact Table.mem_keys_insert.mpr (member.imp_right (accounted.paired (unstopped calm) other))
  | removed id present registers removes sessions arena =>
    refine ⟨accounted.stocked.release arena, fun other member => ?_, ?_,
      fun calm other member => ?_⟩
    · rw [sessions, Table.mem_keys_erase] at member
      rw [arena]
      exact Table.mem_keys_erase.mpr ⟨member.1, accounted.held other member.2⟩
    · have balance := accounted.balance
      have size := Table.size_erase_of_mem present
      rw [countP_concat, countP_concat, removes, Passage.admits, registers, openSessions, sessions]
      simp only [openSessions] at balance
      simp only [Bool.false_and, Bool.false_eq_true, if_true, if_false]
      omega
    · rw [arena] at member
      rw [sessions]
      have := Table.mem_keys_erase.mp member
      exact Table.mem_keys_erase.mpr ⟨this.1, accounted.paired (unstopped calm) other this.2⟩

theorem Delivering.asks {s : Snapshot} {delivery : List Inquiry} {result : Result}
    (delivering : Delivering s format delivery result) : delivery ≠ [] := by
  cases delivering <;> exact List.cons_ne_nil _ _

/-- Only for an id that is not in the table does a collector answer of itself, without asking
    anybody, that it does not know the session. -/
theorem Step.unknown_iff {op : Operation} {asked : List Inquiry} {result : Result} {id : String}
    (step : Step format c op asked result c')
    (held : ∀ id ∈ c.sessions.keys, id ∈ c.arena.live.keys) (about : op.session? = some id) :
    result = .error (unknown id) ∧ asked = [] ↔ id ∉ c.sessions.keys := by
  have known {r : SessionRecord} (found : c.sessions.get? id = some r) : ¬ id ∉ c.sessions.keys :=
    not_not_intro (Table.mem_keys_iff.mpr ⟨r, found⟩)
  cases step with
  | notIssued | notReset | registered => cases about
  | startUnknown closed | endUnknown closed =>
    cases about
    refine iff_of_true ⟨rfl, rfl⟩ ?_
    rcases closed with absent | lost
    · exact Table.get?_eq_none_iff.mp absent
    · exact fun present => Table.get?_eq_none_iff.mp lost (held _ present)
  | runUnknown absent =>
    cases about
    exact iff_of_true ⟨rfl, rfl⟩ (Table.get?_eq_none_iff.mp absent)
  | startBusy found | endNotRunning found | writingUnwound found | ended found =>
    cases about
    exact iff_of_false (fun answer => by simp [unknown] at answer) (known found)
  | notBegun found | begun found | notClosed found | closed found =>
    cases about
    exact iff_of_false (fun answer => by simp at answer) (known found)
  | delivered found held' onFiles delivering =>
    cases about
    have asks := delivering.asks
    exact iff_of_false (fun answer => by simp [asks] at answer) (known found)
  | runLost found lost =>
    cases about
    have present := held _ (Table.mem_keys_iff.mpr ⟨_, found⟩)
    exact absurd present (Table.get?_eq_none_iff.mp lost)

theorem Reached.accounted (reached : Reached format past c)
    (fresh : (issued (inquiries past)).Nodup) : Accounted past c := by
  induction reached with
  | new => exact ⟨⟨Arena.numbered_empty, Nat.le_refl 0, nofun⟩, nofun, rfl, fun _ => nofun⟩
  | turn reached step ih =>
    have earlier := ih (fresh_before fresh)
    exact earlier.passage (step.effect earlier.held) fresh

structure Consistent (past : List Passage) (c : Collector) : Prop where
  session_held : ∀ id ∈ c.sessions.keys, ∃ s, c.arena.get? id = some s ∧ s.session = id
  tokens_distinct : ∀ id id' s s', c.arena.get? id = some s → c.arena.get? id' = some s' →
    s.token = s'.token → id = id'
  tokens_counted : ∀ id s, c.arena.get? id = some s → 1 ≤ s.token ∧ s.token ≤ c.arena.issued
  /-- So 64 bits are enough for the count of fewer registrations than they count. -/
  issued_le : c.arena.issued ≤ past.countP Passage.registers
  /-- A recorder or a store may answer the same, but not before it is asked. -/
  unknown_iff : ∀ p ∈ past, ∀ id, p.turn.operation.session? = some id →
    (p.turn.result = .error (unknown id) ∧ p.turn.asked = [] ↔ id ∉ p.before.sessions.keys)
  open_sessions : c.openSessions + past.countP Passage.removes = past.countP Passage.admits
  same_keys : (∀ p ∈ past, p.turn.result ≠ .error .unwound) →
    ∀ id, id ∈ c.sessions.keys ↔ id ∈ c.arena.live.keys

theorem Reached.unknown_iff (reached : Reached format past c)
    (fresh : (issued (inquiries past)).Nodup) {p : Passage} (member : p ∈ past) {id : String}
    (about : p.turn.operation.session? = some id) :
    p.turn.result = .error (unknown id) ∧ p.turn.asked = [] ↔ id ∉ p.before.sessions.keys := by
  obtain ⟨earlier, later, rfl⟩ := List.append_of_mem member
  obtain ⟨reached, step⟩ := reached.at_passage rfl
  exact step.unknown_iff (reached.accounted (fresh_before fresh)).held about

/-- Whatever is asked of a collector, and whether its recorder answers, fails or unwinds in the
    middle of an operation: sessions keep their snapshots, and none is taken for another. -/
theorem sessions_keep_snapshots (setup : Setup σ) (ops : List Operation) (w : σ)
    (fresh : (issued (inquiries (passages setup ops {} w))).Nodup) :
    Consistent (passages setup ops {} w) (after setup ops {} w).1 := by
  have reached := Reached.new.passages setup ops w
  rw [List.nil_append] at reached
  have accounted := reached.accounted fresh
  have numbered := accounted.stocked.numbered
  constructor
  · intro id present
    obtain ⟨s, held⟩ := Table.mem_keys_iff.mp (accounted.held id present)
    exact ⟨s, held, numbered.own id s held⟩
  · exact numbered.distinct
  · exact numbered.counted
  · exact accounted.stocked.counted
  · exact fun p member id about => reached.unknown_iff fresh member about
  · exact accounted.balance
  · exact fun calm id => ⟨accounted.held id, accounted.paired calm id⟩

def Setup.unsteady : Setup Nat :=
  { Setup.everySecond with
    recorder :=
      { Setup.everySecond.recorder with
        reset := fun s => if s.token % 2 = 0 then .unwind else .done ()
        beginWindow := fun _ path => if path = "crash" then .unwind else .done () } }

def Operation.sample : List Operation :=
  [.register ⟨none, true, none⟩, .register ⟨none, true, none⟩, .register ⟨none, true, none⟩,
    .startTest "0" "crash", .startTest "0" "a", .startTest "1" "a", .endRun "0" true,
    .endRun "0" true]

theorem unsteady_keeps_snapshots :
    (issued (inquiries (passages .unsteady Operation.sample {} 0))).Nodup ∧
      Consistent (passages .unsteady Operation.sample {} 0)
        (after .unsteady Operation.sample {} 0).1 :=
  have fresh : (issued (inquiries (passages .unsteady Operation.sample {} 0))).Nodup := by
    decide +kernel
  ⟨fresh, sessions_keep_snapshots .unsteady Operation.sample 0 fresh⟩

/-- The snapshot of a registration that unwound stays behind. -/
example :
    let c := (after .unsteady Operation.sample {} 0).1
    c.sessions.keys = ["2"] ∧ c.arena.live.keys = ["1", "2"] := by
  decide +kernel

end TestImpact.Collector
