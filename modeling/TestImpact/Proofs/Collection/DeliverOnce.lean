import TestImpact.Proofs.Collection.Inquiries

namespace TestImpact.Collector

open Action

variable {σ : Type}

structure Turn where
  operation : Operation
  result : Result
  asked : List Inquiry

namespace Turn

def Registers (t : Turn) (id : String) : Prop :=
  ∃ request clusters, t.operation = .register request ∧ t.result = .ok (.plan ⟨id, clusters⟩)

def ends (id : String) (t : Turn) : Bool :=
  match t.operation with
  | .endRun id' _ => id' = id
  | _ => false

def deliveries (t : Turn) : List String := t.asked.filterMap Inquiry.delivery?

theorem ends_iff {t : Turn} {id : String} :
    t.ends id = true ↔ ∃ upload, t.operation = .endRun id upload := by
  obtain ⟨op, result, asked⟩ := t
  cases op <;> simp [ends]

theorem ends_of_registers {t : Turn} {id : String} (registers : t.Registers id) (other : String) :
    t.ends other = false := by
  obtain ⟨request, clusters, operation, -⟩ := registers
  simp [ends, operation]

end Turn

theorem split_concat {α : Type} {past before later : List α} {p q : α}
    (split : past ++ [p] = before ++ q :: later) :
    later = [] ∧ past = before ∧ p = q ∨
      ∃ between, later = between ++ [p] ∧ past = before ++ q :: between := by
  rcases List.eq_nil_or_concat later with rfl | ⟨between, last, rfl⟩
  · obtain ⟨same, last⟩ := List.append_inj' split rfl
    exact .inl ⟨rfl, same, List.singleton_inj.mp last⟩
  · rw [List.concat_eq_append] at split ⊢
    have parts : past ++ [p] = (before ++ q :: between) ++ [last] := by simpa using split
    obtain ⟨same, last_eq⟩ := List.append_inj' parts rfl
    exact .inr ⟨between, by rw [last_eq], same⟩

def Opened (past : List Turn) (id : String) : Prop :=
  ∃ before t after, past = before ++ t :: after ∧ t.Registers id ∧ ∀ u ∈ after, u.ends id = false

theorem opened_append_singleton {past : List Turn} {t : Turn} {id : String} :
    Opened (past ++ [t]) id ↔ t.Registers id ∨ Opened past id ∧ t.ends id = false := by
  constructor
  · rintro ⟨before, u, after, split, registers, quiet⟩
    rcases split_concat split with ⟨rfl, rfl, rfl⟩ | ⟨later, rfl, rfl⟩
    · exact .inl registers
    · have earlier : Opened (before ++ u :: later) id :=
        ⟨before, u, later, rfl, registers, fun v member => quiet v (List.mem_append_left _ member)⟩
      exact .inr ⟨earlier, quiet t (List.mem_append_right _ (List.mem_singleton_self t))⟩
  · rintro (registers | ⟨⟨before, u, after, rfl, registers, quiet⟩, still⟩)
    · exact ⟨past, t, [], rfl, registers, fun u none => absurd none List.not_mem_nil⟩
    · refine ⟨before, u, after ++ [t], by simp, registers, fun v member => ?_⟩
      rcases List.mem_append.mp member with member | member
      · exact quiet v member
      · rw [List.mem_singleton.mp member]
        exact still

/-- The collector's sessions are those that its past opened, each with a snapshot of its own. -/
structure Tracks (past : List Turn) (c : Collector) : Prop where
  opened : ∀ id, (c.sessions.get? id).isSome ↔ Opened past id
  held : ∀ id, (c.sessions.get? id).isSome → (c.arena.get? id).isSome
  own : ∀ id s, c.arena.get? id = some s → s.session = id

variable {past : List Turn} {c c' : Collector}

theorem Tracks.admitted (tracks : Tracks past c) (id : String) : Tracks past (c.admitted id) where
  opened := tracks.opened
  held other present := by
    by_cases same : other = id
    · simp [same]
    · simpa [same] using tracks.held other present
  own other s held := by
    by_cases same : other = id
    · simp only [get?_admitted, same, if_true, Option.some.injEq] at held
      subst held
      rw [same]
      unfold Arena.allocate
      cases live : c.arena.get? id with
      | some s => exact tracks.own id s live
      | none => rfl
    · simp only [get?_admitted, same, if_false] at held
      exact tracks.own other s held

theorem Tracks.quiet (tracks : Tracks past c) {t : Turn} (unregistered : ∀ id, ¬ t.Registers id)
    (unended : ∀ id, t.ends id = true → ¬ Opened past id)
    (sessions : ∀ id, (c'.sessions.get? id).isSome = (c.sessions.get? id).isSome)
    (arena : c'.arena = c.arena) : Tracks (past ++ [t]) c' where
  opened id := by
    rw [opened_append_singleton, sessions, tracks.opened]
    constructor
    · intro opened
      cases ends : t.ends id with
      | true => exact absurd opened (unended id ends)
      | false => exact .inr ⟨opened, rfl⟩
    · rintro (registers | ⟨opened, -⟩)
      · exact absurd registers (unregistered id)
      · exact opened
  held id present := by
    rw [sessions] at present
    rw [arena]
    exact tracks.held id present
  own := by
    rw [arena]
    exact tracks.own

theorem Tracks.registered (tracks : Tracks past c) {t : Turn} {id : String}
    (registers : ∀ other, t.Registers other ↔ other = id) (held : (c.arena.get? id).isSome) :
    Tracks (past ++ [t]) (c.setRecord id {}) where
  opened other := by
    rw [opened_append_singleton, registers, get?_setRecord,
      Turn.ends_of_registers ((registers id).mpr rfl), ← tracks.opened]
    by_cases same : other = id <;> simp [same]
  held other present := by
    by_cases same : other = id
    · rw [same]
      exact held
    · rw [get?_setRecord, if_neg same] at present
      exact tracks.held other present
  own := tracks.own

theorem Tracks.ended (tracks : Tracks past c) {t : Turn} {id : String}
    (ends : ∀ other, t.ends other = true ↔ other = id) : Tracks (past ++ [t]) (c.without id) where
  opened other := by
    have unregistered : ¬ t.Registers other := fun registers => by
      have := Turn.ends_of_registers registers id
      rw [(ends id).mpr rfl] at this
      cases this
    rw [opened_append_singleton, ← tracks.opened, sessions_without]
    by_cases same : other = id
    · rw [same] at unregistered ⊢
      simp [unregistered, (ends id).mpr rfl]
    · have still : t.ends other = false := Bool.eq_false_iff.mpr fun last => same ((ends _).mp last)
      simp [unregistered, same, still]
  held other present := by
    rw [sessions_without] at present
    rw [arena_without]
    by_cases same : other = id
    · simp [same] at present
    · rw [if_neg same] at present ⊢
      exact tracks.held other present
  own other s held := by
    rw [arena_without] at held
    by_cases same : other = id
    · simp [same] at held
    · rw [if_neg same] at held
      exact tracks.own other s held

theorem isSome_setRecord {id : String} {r : SessionRecord} (found : c.sessions.get? id = some r)
    (r' : SessionRecord) (other : String) :
    ((c.setRecord id r').sessions.get? other).isSome = (c.sessions.get? other).isSome := by
  rw [get?_setRecord]
  by_cases same : other = id <;> simp [same, found]

theorem Tracks.step {format : Report.Format} {op : Operation} {asked : List Inquiry}
    {result : Result} (tracks : Tracks past c) (step : Step format c op asked result c') :
    Tracks (past ++ [⟨op, result, asked⟩]) c' := by
  cases step with
  | notIssued =>
    exact tracks.quiet (by simp [Turn.Registers]) (by simp [Turn.ends]) (fun _ => rfl) rfl
  | @notReset request id =>
    have announced : Tracks past (c.announced request) := ⟨tracks.opened, tracks.held, tracks.own⟩
    exact (announced.admitted id).quiet (by simp [Turn.Registers]) (by simp [Turn.ends])
      (fun _ => rfl) rfl
  | @registered request id =>
    have announced : Tracks past (c.announced request) := ⟨tracks.opened, tracks.held, tracks.own⟩
    exact (announced.admitted id).registered (by simp [Turn.Registers, eq_comm]) (by simp)
  | startUnknown | startBusy | notBegun | endUnknown | endNotRunning =>
    exact tracks.quiet (by simp [Turn.Registers]) (by simp [Turn.ends]) (fun _ => rfl) rfl
  | begun found | notClosed found =>
    exact tracks.quiet (by simp [Turn.Registers]) (by simp [Turn.ends])
      (isSome_setRecord found _) rfl
  | closed found =>
    refine tracks.quiet (by simp [Turn.Registers]) (by simp [Turn.ends]) (fun other => ?_) rfl
    rw [isSome_setRecord ((get?_setRecord ..).trans (if_pos rfl)), isSome_setRecord found]
  | @runUnknown id upload absent =>
    refine tracks.quiet (by simp [Turn.Registers]) (fun other ends opened => ?_) (fun _ => rfl) rfl
    obtain ⟨_, named⟩ := Turn.ends_iff.mp ends
    cases named
    have := (tracks.opened id).mpr opened
    rw [absent] at this
    cases this
  | runLost found lost =>
    have := tracks.held _ (Option.isSome_iff_exists.mpr ⟨_, found⟩)
    rw [lost] at this
    cases this
  | writingUnwound | ended | delivered =>
    exact tracks.ended (by simp [Turn.ends, eq_comm])

theorem tracks_empty : Tracks [] {} where
  opened id := ⟨nofun, fun ⟨before, t, after, split, _⟩ => absurd split (by simp)⟩
  held id := nofun
  own id s := nofun

def turns (setup : Setup σ) : List Operation → Collector → σ → List Turn
  | [], _, _ => []
  | op :: ops, c, w =>
    let (result, c', w', asked) := (op.perform setup.observed).outcome (c, w, [])
    ⟨op, result, asked⟩ :: turns setup ops c' w'

theorem deliveries_of_onFiles {t : Turn} (onFiles : ∀ q ∈ t.asked, q.OnFiles) :
    t.deliveries = [] := by
  apply List.filterMap_eq_nil_iff.mpr
  intro q member
  cases q with
  | stored report succeeded => exact (onFiles _ member).elim
  | _ => rfl

theorem Tracks.silent {format : Report.Format} {t : Turn} {id : String} {upload : Bool}
    (tracks : Tracks past c) (step : Step format c t.operation t.asked t.result c')
    (operation : t.operation = .endRun id upload) (closed : ¬ Opened past id) :
    t.result = .error (unknown id) ∧ t.asked = [] := by
  have absent : c.sessions.get? id = none := by
    rw [← tracks.opened] at closed
    simpa using closed
  rw [operation] at step
  obtain ⟨op, result, asked⟩ := t
  cases step with
  | runUnknown => exact ⟨rfl, rfl⟩
  | runLost found | writingUnwound found | ended found | delivered found =>
    cases absent.symm.trans found

theorem Step.deliveries_eq_nil {format : Report.Format} {op : Operation} {asked : List Inquiry}
    {result : Result} (step : Step format c op asked result c')
    (other : ∀ id upload, op ≠ .endRun id upload) : asked.filterMap Inquiry.delivery? = [] := by
  cases step with
  | runUnknown | runLost | writingUnwound | ended | delivered => exact absurd rfl (other _ _)
  | _ => rfl

example :
    (turns .everySecond [.register ⟨none, true, none⟩, .startTest "0" "a", .endRun "0" true,
      .endRun "0" true] {} 0).map Turn.deliveries = [[], [], ["report"], []] := by
  decide +kernel

end TestImpact.Collector
