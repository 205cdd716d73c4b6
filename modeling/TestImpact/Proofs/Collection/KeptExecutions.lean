import TestImpact.Proofs.Collection.ExecutionFiles
import TestImpact.Proofs.Files.Opening

namespace TestImpact.Collector

open Action Files Text.Utf8

variable {τ : Type} {setup : Setup (FileTree × τ)} {directory : Path} {c : Collector}
  {x : FileTree × τ}

def recordName (now : Int) : Name := encode (executionsName now)

theorem recordName_injective {now now' : Int} (same : recordName now = recordName now') :
    now = now' := stampedName_injective now (encode_injective same)

def Setup.Tells (setup : Setup (FileTree × τ)) (now : Int) : Prop :=
  ∃ x x', setup.clock.epochMillis.outcome x = (.ok now, x')

def Setup.RecordNames (setup : Setup (FileTree × τ)) (name : Name) : Prop :=
  ∃ now, setup.Tells now ∧ name = recordName now

def Setup.Leaves {ε α : Type} (setup : Setup (FileTree × τ)) (directory : Path)
    (operation : Action ε (FileTree × τ) α) : Prop :=
  ∀ x, FileTree.Spares directory setup.RecordNames x.1 (operation.outcome x).2.1

structure Setup.Keeping (setup : Setup (FileTree × τ)) (directory : Path) : Prop where
  disk : setup.disk = treeDisk
  keeps : setup.artifactDirectory = some directory
  fits : ∀ name, setup.RecordNames name → FileTree.Fits directory name
  tells : setup.clock.epochMillis.Succeeds
  clock : setup.Leaves directory setup.clock.epochMillis
  freshId : setup.Leaves directory setup.freshId
  reset : ∀ s, setup.Leaves directory (setup.recorder.reset s)
  beginWindow : ∀ s path, setup.Leaves directory (setup.recorder.beginWindow s path)
  endWindow : ∀ s path, setup.Leaves directory (setup.recorder.endWindow s path)
  buildReport : ∀ s format, setup.Leaves directory (setup.recorder.buildReport s format)
  store : ∀ report, setup.Leaves directory (setup.store.store report)

def Turn.Stamps (t : Turn) (now : Int) : Prop := .timed (some now) ∈ t.asked

def wroteExecutions (directory : Path) (now : Int) (executions : List Execution) : Inquiry :=
  .wrote (directory.child (recordName now)) (encode (executionsText executions)) true

theorem Setup.Keeping.writeExecutions (keeping : setup.Keeping directory)
    (ready : x.1.Ready directory setup.RecordNames) (executions : List Execution)
    (seen : List Inquiry) :
    ∃ now t' u, setup.Tells now ∧
      (writeExecutions setup.observed executions).outcome (x, seen) =
        (.ok (some (directory.child (recordName now))), (t', u),
          seen ++ [.ensured directory true, .timed (some now),
            wroteExecutions directory now executions]) ∧
      t'.Ready directory setup.RecordNames ∧
      t'.Holds directory (recordName now) (encode (executionsText executions)) ∧
      ∀ other held, setup.RecordNames other → other ≠ recordName now →
        x.1.Holds directory other held → t'.Holds directory other held := by
  obtain ⟨t, u⟩ := x
  obtain ⟨t₁, d, made, opens, writable⟩ := ready
  obtain ⟨now, ⟨t₂, u₂⟩, told⟩ := keeping.tells (t₁, u)
  have tells : setup.Tells now := ⟨_, _, told⟩
  have spares := keeping.clock (t₁, u)
  rw [told] at spares
  have member : setup.RecordNames (recordName now) := ⟨now, tells, rfl⟩
  obtain ⟨t₃, wrote, ready, holds, kept⟩ := (spares.opens d opens).written keeping.fits
    (fun name member => spares.writable opens member (writable name member)) member
    (encode (executionsText executions))
  refine ⟨now, t₃, u₂, tells, ?_, ready, holds, fun other held names apart there => ?_⟩
  · have wrote' : t₂.write (directory.child (encode (executionsName now)))
        (encode (executionsText executions)) = .ok t₃ := wrote
    simp [Collector.writeExecutions, Setup.observed, keeping.keeps, keeping.disk, made, told,
      wrote', wroteExecutions, recordName, Except.toOption]
  · obtain ⟨d', opens', there⟩ := there
    -- The directory was there before, so nothing was made.
    have same := made.symm.trans (opens'.ensured (keeping.fits _ member))
    cases same
    exact kept other held names apart (spares.holds names ⟨d', opens', there⟩)

theorem Setup.Keeping.deliver (keeping : setup.Keeping directory) (id : String) (s : Snapshot) :
    setup.Leaves directory (deliver setup id s) := by
  intro x
  unfold Collector.deliver
  have first := keeping.buildReport s setup.format x
  rcases built : (setup.recorder.buildReport s setup.format).outcome x with ⟨h | report, x₁⟩ <;>
    rw [built] at first
  · simpa [built] using first
  · have second := keeping.store report x₁
    rcases stored : (setup.store.store report).outcome x₁ with ⟨(e | _) | _, x₂⟩ <;>
      rw [stored] at second <;> simpa [built, stored] using first.trans second

/-- What one operation of a collector does to the executions that are kept. -/
structure Keeps (setup : Setup (FileTree × τ)) (directory : Path) (t : FileTree)
    (before : Collector) (turn : Turn) (t' : FileTree) : Prop where
  ready : t'.Ready directory setup.RecordNames
  kept : ∀ now content, setup.Tells now → ¬ turn.Stamps now →
    t.Holds directory (recordName now) content → t'.Holds directory (recordName now) content
  written : ∀ id upload r, turn.operation = .endRun id upload →
    before.sessions.get? id = some r → ∃ now, setup.Tells now ∧ turn.Stamps now ∧
      wroteExecutions directory now r.executions ∈ turn.asked ∧
      t'.Holds directory (recordName now) (encode (executionsText r.executions))

theorem Setup.Keeping.undisturbed (keeping : setup.Keeping directory) {op : Operation}
    (goesOn : ∀ id upload, op ≠ .endRun id upload) (c : Collector) (x : FileTree × τ) :
    FileTree.Spares directory setup.RecordNames x.1 ((op.perform setup).outcome (c, x)).2.2.1 := by
  cases op with
  | register request =>
    have first := keeping.freshId x
    simp only [Operation.perform, outcome_map_state, outcome_register]
    rcases fresh : setup.freshId.outcome x with ⟨h | id, x₁⟩ <;> rw [fresh] at first
    · exact first
    · have second := keeping.reset (c.arena.allocate id).1 x₁
      rcases reset : (setup.recorder.reset (c.arena.allocate id).1).outcome x₁
        with ⟨h | _, x₂⟩ <;> rw [reset] at second <;>
        simpa only [reset] using first.trans second
  | startTest id path =>
    simp only [Operation.perform, outcome_map_state, outcome_startTest]
    rcases found : c.sessions.get? id with _ | ⟨_ | active, executions⟩
    · exact .refl ..
    · cases held : c.arena.get? id with
      | none => exact .refl ..
      | some s =>
        have left := keeping.beginWindow s path x
        rcases begun : (setup.recorder.beginWindow s path).outcome x with ⟨h | _, x₁⟩ <;>
          rw [begun] at left <;> simpa only [begun] using left
    · exact .refl ..
  | endTest id execution retrieve =>
    simp only [Operation.perform, outcome_map_state, outcome_endTest]
    rcases found : c.sessions.get? id with _ | r
    · exact .refl ..
    · by_cases running : r.active = some execution.path
      · cases held : c.arena.get? id with
        | none => simpa only [running, if_true] using .refl ..
        | some s =>
          have left := keeping.endWindow s execution.path x
          rcases closed : (setup.recorder.endWindow s execution.path).outcome x
            with ⟨h | _, x₁⟩ <;> rw [closed] at left <;>
            simpa only [running, if_true, closed] using left
      · simpa only [running, if_false] using .refl ..
  | endRun id upload => exact absurd rfl (goesOn id upload)

def Paired (c : Collector) : Prop :=
  ∀ id, (c.sessions.get? id).isSome → (c.arena.get? id).isSome

theorem Setup.Keeping.keeps_of_undisturbed (keeping : setup.Keeping directory) {op : Operation}
    (goesOn : ∀ id upload, op ≠ .endRun id upload) (ready : x.1.Ready directory setup.RecordNames) :
    let next := (op.perform setup.observed).outcome (c, x, [])
    Keeps setup directory x.1 c ⟨op, next.1, next.2.2.2⟩ next.2.2.1.1 := by
  intro next
  have spares := keeping.undisturbed goesOn c x
  rw [← op.perform_observed setup c x []] at spares
  exact ⟨spares.ready ready, fun now content tells _ holds => spares.holds ⟨now, tells, rfl⟩ holds,
    fun id upload r operation _ => absurd operation (goesOn id upload)⟩

theorem Setup.Keeping.keeps_endRun (keeping : setup.Keeping directory) (paired : c.Paired)
    (ready : x.1.Ready directory setup.RecordNames) (id : String) (upload : Bool) :
    let next := ((Operation.endRun id upload).perform setup.observed).outcome (c, x, [])
    Keeps setup directory x.1 c ⟨.endRun id upload, next.1, next.2.2.2⟩ next.2.2.1.1 := by
  simp only [Operation.perform, outcome_map, outcome_endRun]
  cases found : c.sessions.get? id with
  | none =>
    refine ⟨ready, fun _ _ _ _ holds => holds, fun id' _ r same there => ?_⟩
    cases same
    cases found.symm.trans there
  | some r =>
    obtain ⟨s, held⟩ := Option.isSome_iff_exists.mp (paired id (by rw [found]; rfl))
    obtain ⟨now, t', u, tells, wrote, ready', holds, kept⟩ :=
      keeping.writeExecutions ready r.executions []
    have keeps {asked : List Inquiry} {result : Result} {t'' : FileTree}
        (spares : FileTree.Spares directory setup.RecordNames t' t'')
        (notes : ∃ delivery, asked = [.ensured directory true, .timed (some now),
          wroteExecutions directory now r.executions] ++ delivery) :
        Keeps setup directory x.1 c ⟨.endRun id upload, result, asked⟩ t'' := by
      obtain ⟨delivery, rfl⟩ := notes
      refine ⟨spares.ready ready', fun other content tells' unstamped there => ?_, ?_⟩
      · have apart : recordName other ≠ recordName now := fun same => by
          cases recordName_injective same
          exact unstamped (by simp [Turn.Stamps])
        exact spares.holds ⟨other, tells', rfl⟩ (kept _ content ⟨other, tells', rfl⟩ apart there)
      · intro id' _ r' same there
        cases same
        cases found.symm.trans there
        exact ⟨now, tells, by simp [Turn.Stamps], by simp, spares.holds ⟨now, tells, rfl⟩ holds⟩
    simp only [held, wrote, List.nil_append]
    cases upload with
    | false => exact keeps (.refl ..) ⟨[], (List.append_nil _).symm⟩
    | true =>
      have left := keeping.deliver id s (t', u)
      obtain ⟨delivery, notes, -⟩ := deliver_asks setup id s (t', u)
        [.ensured directory true, .timed (some now), wroteExecutions directory now r.executions]
      rw [← deliver_observed setup id s (t', u)
        [.ensured directory true, .timed (some now),
          wroteExecutions directory now r.executions]] at left
      simp only [if_true]
      rcases sent : (Collector.deliver setup.observed id s).outcome ((t', u),
        [.ensured directory true, .timed (some now), wroteExecutions directory now r.executions])
        with ⟨h | _, w, seen⟩ <;> rw [sent] at left notes <;>
        exact keeps left ⟨delivery, notes⟩

theorem Setup.Keeping.step (keeping : setup.Keeping directory) (paired : c.Paired)
    (ready : x.1.Ready directory setup.RecordNames) (op : Operation) :
    let next := (op.perform setup.observed).outcome (c, x, [])
    Keeps setup directory x.1 c ⟨op, next.1, next.2.2.2⟩ next.2.2.1.1 := by
  cases op with
  | endRun id upload => exact keeping.keeps_endRun paired ready id upload
  | register | startTest | endTest => exact keeping.keeps_of_undisturbed nofun ready

theorem Setup.Keeping.kept (keeping : setup.Keeping directory) {now : Int} {content : List UInt8}
    (tells : setup.Tells now) (ops : List Operation) {past : List Turn} (tracks : Tracks past c)
    (ready : x.1.Ready directory setup.RecordNames)
    (holds : x.1.Holds directory (recordName now) content)
    (unstamped : ∀ p ∈ passages setup ops c x, ¬ p.turn.Stamps now) :
    (after setup ops c x).2.1.Holds directory (recordName now) content := by
  induction ops generalizing past c x with
  | nil => exact holds
  | cons op ops ih =>
    obtain ⟨asked, notes, step⟩ := perform_step setup op c x []
    have keeps := keeping.step tracks.held ready op
    have same := op.perform_observed setup c x []
    rcases ran : (op.perform setup.observed).outcome (c, x, []) with ⟨result, c', x', seen⟩
    rw [ran] at notes step keeps same
    simp only [List.nil_append] at notes
    subst notes
    simp only [passages, ran] at unstamped
    simp only [after, ← same]
    exact ih (tracks.step step) keeps.ready
      (keeps.kept now content tells (unstamped _ List.mem_cons_self) holds)
      fun p member => unstamped p (List.mem_cons_of_mem _ member)

/-- Of the sessions that end at one reading of the clock the executions of the last one are kept. -/
theorem Setup.Keeping.survives (keeping : setup.Keeping directory) (ops : List Operation)
    {past : List Turn} (tracks : Tracks past c) (ready : x.1.Ready directory setup.RecordNames)
    {before later : List Passage} {p : Passage}
    (split : passages setup ops c x = before ++ p :: later) {id : String} {upload : Bool}
    {r : SessionRecord} (ends : p.turn.operation = .endRun id upload)
    (found : p.before.sessions.get? id = some r) :
    ∃ now, setup.Tells now ∧ p.turn.Stamps now ∧
      wroteExecutions directory now r.executions ∈ p.turn.asked ∧
      ((∀ q ∈ later, ¬ q.turn.Stamps now) →
        (after setup ops c x).2.1.Holds directory (recordName now)
          (encode (executionsText r.executions))) := by
  induction ops generalizing past c x before with
  | nil => simp [passages] at split
  | cons op ops ih =>
    obtain ⟨asked, notes, step⟩ := perform_step setup op c x []
    have keeps := keeping.step tracks.held ready op
    have same := op.perform_observed setup c x []
    rcases ran : (op.perform setup.observed).outcome (c, x, []) with ⟨result, c', x', seen⟩
    rw [ran] at notes step keeps same
    simp only [List.nil_append] at notes
    subst notes
    simp only [passages, ran] at split
    simp only [after, ← same]
    cases before with
    | nil =>
      cases split
      obtain ⟨now, tells, stamps, wrote, holds⟩ := keeps.written id upload r ends found
      exact ⟨now, tells, stamps, wrote,
        keeping.kept tells ops (tracks.step step) keeps.ready holds⟩
    | cons q before =>
      rw [List.cons_append, List.cons.injEq] at split
      exact ih (tracks.step step) keeps.ready split.2

def Setup.ticking (reading : Nat → Int) : Setup (FileTree × Nat) where
  recorder :=
    { reset := fun _ => .done ()
      beginWindow := fun _ _ => .done ()
      endWindow := fun _ _ => .done "src/a.c:1-2"
      buildReport := fun _ _ => .done "report" }
  store := ⟨"nowhere", fun _ => .done (.uploaded "nowhere")⟩
  format := .testwise
  artifactDirectory := some (.ofString "out")
  disk := treeDisk
  clock := ⟨.step fun w => (reading w.2, (w.1, w.2 + 1)), .done 0⟩
  freshId := .step fun w => (toString w.2, (w.1, w.2 + 1))

def ended : Execution := ⟨"a", 5, .passed, none⟩

def AllKept (setup : Setup (FileTree × τ)) (directory : Path) (ops : List Operation)
    (c : Collector) (x : FileTree × τ) : Prop :=
  ∀ p ∈ passages setup ops c x, ∀ id upload r, p.turn.operation = .endRun id upload →
    p.before.sessions.get? id = some r →
    ∃ name, Artifact.Kind.testExecution.covers (directory.child name) ∧
      Artifact.readFile (after setup ops c x).2.1 Execution.reader (directory.child name) =
        .ok r.executions

theorem Setup.Keeping.allKept (keeping : setup.Keeping directory) (ops : List Operation)
    (ready : x.1.Ready directory setup.RecordNames)
    (apart : (passages setup ops {} x).Pairwise fun p q =>
      ∀ now, p.turn.Stamps now → ¬ q.turn.Stamps now) :
    AllKept setup directory ops {} x := by
  intro p member id upload r ends found
  obtain ⟨before, later, split⟩ := List.append_of_mem member
  obtain ⟨now, tells, stamps, -, holds⟩ :=
    keeping.survives ops tracks_empty ready split ends found
  rw [split, List.pairwise_append, List.pairwise_cons] at apart
  obtain ⟨d, opens, there⟩ := holds fun q after => apart.2.1.1 q after now stamps
  have file := opens.lookUp (keeping.fits _ ⟨now, tells, rfl⟩) there
  exact ⟨recordName now, covers_executionsName directory now,
    Artifact.readFile_file file (Execution.read_list_pretty r.executions)⟩

def Setup.stopped : Setup (FileTree × Nat) := .ticking fun _ => 5

end TestImpact.Collector
