import TestImpact.Proofs.Collection.Snapshots

namespace TestImpact

open Action

variable {ε σ α : Type}

inductive Recorder.Call
  | reset (snapshot : Snapshot)
  | began (snapshot : Snapshot) (path : String)
  | closed (snapshot : Snapshot) (path : String)
  | built (snapshot : Snapshot) (format : Report.Format)

def Recorder.Call.snapshot : Recorder.Call → Snapshot
  | reset s | began s _ | closed s _ | built s _ => s

/-- What a world has been asked: the calls that the recorder had, and for how many ids. -/
structure Past where
  calls : List Recorder.Call := []
  given : Nat := 0

namespace Past

def callsFor (s : Snapshot) (p : Past) : List Recorder.Call := p.calls.filter (·.snapshot = s)

def called (q : Recorder.Call) (p : Past) : Past := { p with calls := p.calls ++ [q] }

theorem callsFor_called (s : Snapshot) (q : Recorder.Call) (p : Past) :
    (p.called q).callsFor s = p.callsFor s ++ if q.snapshot = s then [q] else [] := by
  by_cases own : q.snapshot = s <;> simp [callsFor, called, List.filter_append, own]

end Past

/-- A call whose answer depends on the earlier calls for its snapshot, and on nothing else. -/
structure Asks (past : σ → Past) (q : Recorder.Call) (x : Action ε σ α) : Prop where
  answer : ∀ w w', (past w).callsFor q.snapshot = (past w').callsFor q.snapshot →
    (x.outcome w).1 = (x.outcome w').1
  called : ∀ w, past (x.outcome w).2 = (past w).called q

theorem Asks.both {past : σ → Past} {q : Recorder.Call} {x : Action ε σ α} (asks : Asks past q x)
    {w w' : σ} (same : (past w').callsFor q.snapshot = (past w).callsFor q.snapshot) :
    ∃ answer w₁ w₁', x.outcome w = (answer, w₁) ∧ x.outcome w' = (answer, w₁') ∧
      past w₁ = (past w).called q ∧ past w₁' = (past w').called q :=
  ⟨(x.outcome w).1, (x.outcome w).2, (x.outcome w').2, rfl, by rw [asks.answer w w' same.symm],
    asks.called w, asks.called w'⟩

theorem Asks.bind {past : σ → Past} {q : Recorder.Call} {x : Action ε σ α} {β : Type}
    {f : α → Action ε σ β} (asks : Asks past q x)
    (fixed : ∀ a w w', ((f a).outcome w).1 = ((f a).outcome w').1)
    (apart : ∀ a w, past ((f a).outcome w).2 = past w) : Asks past q (x >>= f) where
  answer w w' same := by
    have answer := asks.answer w w' same
    rw [outcome_bind, outcome_bind]
    rcases ran : x.outcome w with ⟨result, w₁⟩
    rcases ran' : x.outcome w' with ⟨result', w₁'⟩
    rw [ran, ran'] at answer
    cases answer
    cases result with
    | error h => rfl
    | ok a => exact fixed a w₁ w₁'
  called w := by
    have called := asks.called w
    rw [outcome_bind]
    rcases ran : x.outcome w with ⟨h | a, w₁⟩ <;> rw [ran] at called
    · exact called
    · exact (apart a w₁).trans called

structure Aside (past : σ → Past) (x : Action ε σ α) : Prop where
  apart : ∀ w, past (x.outcome w).2 = past w
  returns : ∀ w, (x.outcome w).1 ≠ .error .unwound

namespace Aside

variable {ε' β : Type} {past : σ → Past} {x : Action ε σ α}

theorem pure (a : α) : Aside past (Pure.pure a : Action ε σ α) := ⟨fun _ => rfl, fun _ => nofun⟩

theorem bind {f : α → Action ε σ β} (aside : Aside past x) (next : ∀ a, Aside past (f a)) :
    Aside past (x >>= f) := by
  suffices each : ∀ w, past ((x >>= f).outcome w).2 = past w ∧
      ((x >>= f).outcome w).1 ≠ .error .unwound from
    ⟨fun w => (each w).1, fun w => (each w).2⟩
  intro w
  have apart := aside.apart w
  have returns := aside.returns w
  rw [outcome_bind]
  rcases ran : x.outcome w with ⟨h | a, w'⟩ <;> rw [ran] at apart returns
  · exact ⟨apart, by simpa using returns⟩
  · exact ⟨((next a).apart w').trans apart, (next a).returns w'⟩

theorem mapError (f : ε → ε') (aside : Aside past x) : Aside past (x.mapError f) := by
  suffices each : ∀ w, past ((x.mapError f).outcome w).2 = past w ∧
      ((x.mapError f).outcome w).1 ≠ .error .unwound from
    ⟨fun w => (each w).1, fun w => (each w).2⟩
  intro w
  have apart := aside.apart w
  have returns := aside.returns w
  rw [outcome_mapError]
  rcases ran : x.outcome w with ⟨(e | _) | a, w'⟩ <;> rw [ran] at apart returns
  · exact ⟨apart, nofun⟩
  · exact absurd rfl returns
  · exact ⟨apart, nofun⟩

end Aside

namespace Collector

/-- Surroundings where the recorder keeps snapshots apart, the store looks at the report only, and
    an id depends only on how many were given before, which all differ. The disk and the clock may
    answer anything, as long as they do not unwind. -/
structure Setup.Separate (setup : Setup σ) (past : σ → Past) : Prop where
  reset : ∀ s, Asks past (.reset s) (setup.recorder.reset s)
  beginWindow : ∀ s path, Asks past (.began s path) (setup.recorder.beginWindow s path)
  endWindow : ∀ s path, Asks past (.closed s path) (setup.recorder.endWindow s path)
  buildReport : ∀ s format, Asks past (.built s format) (setup.recorder.buildReport s format)
  store : ∀ report w w',
    ((setup.store.store report).outcome w).1 = ((setup.store.store report).outcome w').1
  stored : ∀ report w, past ((setup.store.store report).outcome w).2 = past w
  ensureDirectory : ∀ p, Aside past (setup.disk.ensureDirectory p)
  write : ∀ p content, Aside past (setup.disk.write p content)
  epochMillis : Aside past setup.clock.epochMillis
  freshId : ∀ w, past (setup.freshId.outcome w).2 = { past w with given := (past w).given + 1 }
  given : ∀ w w', (past w).given = (past w').given →
    (setup.freshId.outcome w).1 = (setup.freshId.outcome w').1
  fresh : ∀ w w' id, (setup.freshId.outcome w).1 = .ok id → (setup.freshId.outcome w').1 = .ok id →
    (past w).given = (past w').given

namespace Setup.Separate

variable {setup : Setup σ} {past : σ → Past}

theorem writeExecutions (separate : setup.Separate past) (executions : List Execution) :
    Aside past (Collector.writeExecutions setup executions) := by
  unfold Collector.writeExecutions
  cases setup.artifactDirectory with
  | none => exact .pure none
  | some directory =>
    refine ((separate.ensureDirectory directory).mapError _).bind fun _ => ?_
    refine (separate.epochMillis.mapError _).bind fun now => ?_
    exact ((separate.write _ _).mapError _).bind fun _ => .pure _

theorem deliver (separate : setup.Separate past) (id : String) (s : Snapshot) :
    Asks past (.built s setup.format) (Collector.deliver setup id s) := by
  unfold Collector.deliver
  refine (separate.buildReport s setup.format).bind (fun report w w' => ?_) fun report w => ?_
  · have same := separate.store report w w'
    simp only [outcome_bind, outcome_mapError]
    rcases ran : (setup.store.store report).outcome w with ⟨result, w₁⟩
    rcases ran' : (setup.store.store report).outcome w' with ⟨result', w₁'⟩
    rw [ran, ran'] at same
    cases same
    rcases result with (e | _) | a <;> rfl
  · have apart := separate.stored report w
    simp only [outcome_bind, outcome_mapError]
    rcases ran : (setup.store.store report).outcome w with ⟨(e | _) | a, w₁⟩
    all_goals
      rw [ran] at apart
      exact apart

theorem endRun_written (separate : setup.Separate past) {id : String} {c : Collector} (w : σ)
    {r : SessionRecord} {s : Snapshot} (upload : Bool) (found : c.sessions.get? id = some r)
    (held : c.arena.get? id = some s) :
    ∃ w₁, past w₁ = past w ∧ (Collector.endRun setup id upload).outcome (c, w) =
      if upload then
        let delivered := (Collector.deliver setup id s).outcome w₁
        (delivered.1, c.without id, delivered.2)
      else (.ok (), c.without id, w₁) := by
  have aside := separate.writeExecutions r.executions
  have apart := aside.apart w
  have returns := aside.returns w
  rw [outcome_endRun, found, held]
  rcases written : (Collector.writeExecutions setup r.executions).outcome w with ⟨(e | _) | p, w₁⟩
  all_goals rw [written] at apart returns
  · exact ⟨w₁, apart, by simp only [written]⟩
  · exact absurd rfl returns
  · exact ⟨w₁, apart, by simp only [written]⟩

end Setup.Separate

/-- What an operation on a session may change: of the collector only what belongs to the session,
    and of the past at most a call for the session's snapshot. -/
structure Confined (id : String) (c : Collector) (p : Past) (c' : Collector) (p' : Past) :
    Prop where
  known : c'.known = c.known
  sessions : ∀ other, other ≠ id → c'.sessions.get? other = c.sessions.get? other
  arena : c'.arena = c.arena ∨ c'.arena = (c.arena.release id).2
  past : p' = p ∨ ∃ q, c.arena.get? id = some q.snapshot ∧ p' = p.called q

theorem Confined.refl (id : String) (c : Collector) (p : Past) : Confined id c p c p :=
  ⟨rfl, fun _ _ => rfl, .inl rfl, .inl rfl⟩

variable {setup : Setup σ} {past : σ → Past}

theorem Setup.Separate.confined (separate : setup.Separate past) {op : Operation} {id : String}
    (about : op.session? = some id) (c : Collector) (w : σ) :
    let next := (op.perform setup).outcome (c, w)
    Confined id c (past w) next.2.1 (past next.2.2) := by
  have setRecord (r : SessionRecord) (other : String) (apart : other ≠ id) :
      (c.setRecord id r).sessions.get? other = c.sessions.get? other := by
    rw [get?_setRecord, if_neg apart]
  cases op with
  | register request => cases about
  | startTest id path =>
    cases about
    simp only [Operation.perform, outcome_map_state, outcome_startTest]
    rcases found : c.sessions.get? id with _ | ⟨_ | active, executions⟩
    · exact .refl id c _
    · cases held : c.arena.get? id with
      | none => exact .refl id c _
      | some s =>
        have called := (separate.beginWindow s path).called w
        rcases begun : (setup.recorder.beginWindow s path).outcome w with ⟨h | _, w'⟩
        all_goals
          rw [begun] at called
          simp only [begun]
        · exact ⟨rfl, fun _ _ => rfl, .inl rfl, .inr ⟨.began s path, held, called⟩⟩
        · exact ⟨rfl, setRecord _, .inl rfl, .inr ⟨.began s path, held, called⟩⟩
    · exact .refl id c _
  | endTest id execution retrieve =>
    cases about
    simp only [Operation.perform, outcome_map_state, outcome_endTest]
    rcases found : c.sessions.get? id with _ | r
    · exact .refl id c _
    · by_cases running : r.active = some execution.path
      · simp only [if_pos running]
        cases held : c.arena.get? id with
        | none => exact .refl id c _
        | some s =>
          have called := (separate.endWindow s execution.path).called w
          rcases closed : (setup.recorder.endWindow s execution.path).outcome w
            with ⟨h | coverage, w'⟩
          all_goals
            rw [closed] at called
            simp only [closed]
          · exact ⟨rfl, setRecord _, .inl rfl, .inr ⟨.closed s execution.path, held, called⟩⟩
          · refine ⟨rfl, fun other apart => ?_, .inl rfl,
              .inr ⟨.closed s execution.path, held, called⟩⟩
            rw [get?_setRecord, if_neg apart]
            exact setRecord _ other apart
      · simp only [if_neg running]
        exact .refl id c _
  | endRun id upload =>
    cases about
    simp only [Operation.perform, outcome_map_state]
    have without (other : String) (apart : other ≠ id) :
        (c.without id).sessions.get? other = c.sessions.get? other := by
      rw [sessions_without, if_neg apart]
    rcases found : c.sessions.get? id with _ | r
    · rw [outcome_endRun, found]
      exact .refl id c _
    · cases held : c.arena.get? id with
      | none =>
        rw [outcome_endRun, found, held]
        exact ⟨rfl, without, .inl rfl, .inl rfl⟩
      | some s =>
        obtain ⟨w₁, same, ended⟩ := separate.endRun_written w upload found held
        rw [ended]
        cases upload with
        | false => exact ⟨rfl, without, .inr rfl, .inl same⟩
        | true =>
          have called := (separate.deliver id s).called w₁
          rw [same] at called
          exact ⟨rfl, without, .inr rfl, .inr ⟨.built s setup.format, held, called⟩⟩

structure Grounded (setup : Setup σ) (past : σ → Past) (c : Collector) (p : Past) : Prop where
  numbered : c.arena.Numbered
  given : ∀ id s, c.arena.get? id = some s →
    ∃ w, (past w).given < p.given ∧ (setup.freshId.outcome w).1 = .ok id

theorem Grounded.absent (separate : setup.Separate past) {c : Collector} {w : σ} {id : String}
    (grounded : Grounded setup past c (past w)) (new : (setup.freshId.outcome w).1 = .ok id) :
    c.arena.get? id = none := by
  apply Option.eq_none_iff_forall_not_mem.mpr
  intro s held
  obtain ⟨earlier, before, given⟩ := grounded.given id s held
  exact Nat.ne_of_lt before (separate.fresh earlier w id given new)

theorem Grounded.admitted {c c' : Collector} {p p' : Past} {w : σ} {id : String}
    (grounded : Grounded setup past c p) (new : (setup.freshId.outcome w).1 = .ok id)
    (arena : c'.arena = (c.arena.allocate id).2) (now : (past w).given < p'.given)
    (later : p.given ≤ p'.given) : Grounded setup past c' p' where
  numbered := by
    rw [arena]
    exact grounded.numbered.allocate id
  given other s held := by
    rw [arena, Arena.get?_allocate] at held
    by_cases same : other = id
    · rw [same]
      exact ⟨w, now, new⟩
    · rw [if_neg same] at held
      obtain ⟨v, before, given⟩ := grounded.given other s held
      exact ⟨v, Nat.lt_of_lt_of_le before later, given⟩

end Collector

end TestImpact
