import TestImpact.Proofs.Collection.Operations

namespace TestImpact

open Action

variable {σ : Type}

/-- What a collector asks of its surroundings, with as much of the answer as there is. -/
inductive Inquiry
  | issued (id : Option String)
  | reset (snapshot : Snapshot)
  | began (snapshot : Snapshot) (path : String) (succeeded : Bool)
  | closed (snapshot : Snapshot) (path : String) (coverage : Option String)
  | built (snapshot : Snapshot) (format : Report.Format) (report : Option String)
  | stored (report : String) (succeeded : Bool)
  | ensured (directory : Files.Path) (succeeded : Bool)
  | timed (epochMillis : Option Int)
  | wrote (path : Files.Path) (content : List UInt8) (succeeded : Bool)
  | looked (path : Files.Path)
  deriving DecidableEq, Repr

namespace Inquiry

def OnFiles : Inquiry → Prop
  | ensured .. | timed .. | wrote .. | looked .. => True
  | _ => False

def delivery? : Inquiry → Option String
  | stored report _ => some report
  | _ => none

end Inquiry

namespace Collector

def Setup.observed (setup : Setup σ) : Setup (σ × List Inquiry) where
  recorder :=
    { reset := fun s => (setup.recorder.reset s).noted fun _ => .reset s
      beginWindow := fun s path =>
        (setup.recorder.beginWindow s path).noted fun r => .began s path r.isOk
      endWindow := fun s path =>
        (setup.recorder.endWindow s path).noted fun r => .closed s path r.toOption
      buildReport := fun s format =>
        (setup.recorder.buildReport s format).noted fun r => .built s format r.toOption }
  store :=
    { description := setup.store.description
      store := fun report => (setup.store.store report).noted fun r => .stored report r.isOk }
  format := setup.format
  artifactDirectory := setup.artifactDirectory
  disk :=
    { ensureDirectory := fun p => (setup.disk.ensureDirectory p).noted fun r => .ensured p r.isOk
      write := fun p content => (setup.disk.write p content).noted fun r => .wrote p content r.isOk
      readText := fun p => (setup.disk.readText p).noted fun _ => .looked p }
  clock :=
    { epochMillis := setup.clock.epochMillis.noted fun r => .timed r.toOption
      stopwatch := setup.clock.stopwatch.onFst }
  freshId := setup.freshId.noted fun r => .issued r.toOption

inductive Operation
  | register (request : Registration)
  | startTest (id path : String)
  | endTest (id : String) (execution : Execution) (retrieve : Bool)
  | endRun (id : String) (upload : Bool)
  deriving DecidableEq, Repr

inductive Answer
  | plan (p : Plan)
  | done
  | attribution (a : Option Attribution)
  deriving DecidableEq, Repr

def Operation.perform (setup : Setup σ) : Operation → Action Error (Collector × σ) Answer
  | .register request => .plan <$> Collector.register setup request
  | .startTest id path => (fun _ => .done) <$> Collector.startTest setup id path
  | .endTest id execution retrieve =>
    .attribution <$> Collector.endTest setup id execution retrieve
  | .endRun id upload => (fun _ => .done) <$> Collector.endRun setup id upload

abbrev Result := Except (Halt Error) Answer

inductive Delivering (s : Snapshot) (format : Report.Format) : List Inquiry → Result → Prop
  | notBuilt (h : Halt Error) : Delivering s format [.built s format none] (.error h)
  | notStored (report : String) (h : Halt Error) :
      Delivering s format [.built s format (some report), .stored report false] (.error h)
  | stored (report : String) :
      Delivering s format [.built s format (some report), .stored report true] (.ok .done)

inductive Step (format : Report.Format) :
    Collector → Operation → List Inquiry → Result → Collector → Prop
  | notIssued {c : Collector} {request : Registration} :
      Step format c (.register request) [.issued none] (.error .unwound) (c.announced request)
  | notReset {c : Collector} {request : Registration} (id : String) :
      Step format c (.register request) [.issued (some id), .reset (c.arena.allocate id).1]
        (.error .unwound) ((c.announced request).admitted id)
  | registered {c : Collector} {request : Registration} (id : String) :
      Step format c (.register request) [.issued (some id), .reset (c.arena.allocate id).1]
        (.ok (.plan ⟨id, c.planFor request⟩))
        (((c.announced request).admitted id).setRecord id {})
  | startUnknown {c : Collector} {id path : String}
      (closed : c.sessions.get? id = none ∨ c.arena.get? id = none) :
      Step format c (.startTest id path) [] (.error (unknown id)) c
  | startBusy {c : Collector} {id path : String} {r : SessionRecord} {active : String}
      (found : c.sessions.get? id = some r) (busy : r.active = some active) :
      Step format c (.startTest id path) []
        (.error (.failed (.disagreement (.alreadyRunning id active)))) c
  | notBegun {c : Collector} {id path : String} {r : SessionRecord} {s : Snapshot}
      (found : c.sessions.get? id = some r) (idle : r.active = none)
      (held : c.arena.get? id = some s) (h : Halt Error) :
      Step format c (.startTest id path) [.began s path false] (.error h) c
  | begun {c : Collector} {id path : String} {r : SessionRecord} {s : Snapshot}
      (found : c.sessions.get? id = some r) (idle : r.active = none)
      (held : c.arena.get? id = some s) :
      Step format c (.startTest id path) [.began s path true] (.ok .done)
        (c.setRecord id { r with active := some path })
  | endUnknown {c : Collector} {id : String} {execution : Execution} {retrieve : Bool}
      (closed : c.sessions.get? id = none ∨ c.arena.get? id = none) :
      Step format c (.endTest id execution retrieve) [] (.error (unknown id)) c
  | endNotRunning {c : Collector} {id : String} {execution : Execution} {retrieve : Bool}
      {r : SessionRecord} (found : c.sessions.get? id = some r)
      (other : r.active ≠ some execution.path) :
      Step format c (.endTest id execution retrieve) []
        (.error (.failed (.disagreement (.notRunning execution.path id)))) c
  | notClosed {c : Collector} {id : String} {execution : Execution} {retrieve : Bool}
      {r : SessionRecord} {s : Snapshot} (found : c.sessions.get? id = some r)
      (running : r.active = some execution.path) (held : c.arena.get? id = some s)
      (h : Halt Error) :
      Step format c (.endTest id execution retrieve) [.closed s execution.path none] (.error h)
        (c.setRecord id { r with active := none })
  | closed {c : Collector} {id : String} {execution : Execution} {retrieve : Bool}
      {r : SessionRecord} {s : Snapshot} (found : c.sessions.get? id = some r)
      (running : r.active = some execution.path) (held : c.arena.get? id = some s)
      (coverage : String) :
      Step format c (.endTest id execution retrieve) [.closed s execution.path (some coverage)]
        (.ok (.attribution (if retrieve then some (attribution execution coverage) else none)))
        ((c.setRecord id { r with active := none }).setRecord id
          ⟨none, r.executions ++ [execution]⟩)
  | runUnknown {c : Collector} {id : String} {upload : Bool} (absent : c.sessions.get? id = none) :
      Step format c (.endRun id upload) [] (.error (unknown id)) c
  | runLost {c : Collector} {id : String} {upload : Bool} {r : SessionRecord}
      (found : c.sessions.get? id = some r) (lost : c.arena.get? id = none) :
      Step format c (.endRun id upload) [] (.error (unknown id))
        { c with sessions := c.sessions.erase id }
  | writingUnwound {c : Collector} {id : String} {upload : Bool} {r : SessionRecord}
      {s : Snapshot} {files : List Inquiry} (found : c.sessions.get? id = some r)
      (held : c.arena.get? id = some s) (onFiles : ∀ e ∈ files, e.OnFiles) :
      Step format c (.endRun id upload) files (.error .unwound) (c.without id)
  | ended {c : Collector} {id : String} {r : SessionRecord} {s : Snapshot} {files : List Inquiry}
      (found : c.sessions.get? id = some r) (held : c.arena.get? id = some s)
      (onFiles : ∀ e ∈ files, e.OnFiles) :
      Step format c (.endRun id false) files (.ok .done) (c.without id)
  | delivered {c : Collector} {id : String} {r : SessionRecord} {s : Snapshot}
      {files delivery : List Inquiry} {result : Result} (found : c.sessions.get? id = some r)
      (held : c.arena.get? id = some s) (onFiles : ∀ e ∈ files, e.OnFiles)
      (delivering : Delivering s format delivery result) :
      Step format c (.endRun id true) (files ++ delivery) result (c.without id)

theorem register_step (setup : Setup σ) (request : Registration) (c : Collector) (w : σ)
    (seen : List Inquiry) :
    ∃ asked, let next := ((Operation.register request).perform setup.observed).outcome (c, w, seen)
      next.2.2.2 = seen ++ asked ∧
        Step setup.format c (.register request) asked next.1 next.2.1 := by
  simp only [Operation.perform, outcome_map, outcome_register, Setup.observed, outcome_noted]
  rcases fresh : setup.freshId.outcome w with ⟨h | id, w'⟩
  · exact ⟨_, rfl, .notIssued⟩
  · rcases reset : (setup.recorder.reset (c.arena.allocate id).1).outcome w' with ⟨h | _, w''⟩
    · simp only [outcome_noted, reset]
      exact ⟨_, List.append_assoc .., .notReset id⟩
    · simp only [outcome_noted, reset]
      exact ⟨_, List.append_assoc .., .registered id⟩

theorem startTest_step (setup : Setup σ) (id path : String) (c : Collector) (w : σ)
    (seen : List Inquiry) :
    ∃ asked, let next := ((Operation.startTest id path).perform setup.observed).outcome (c, w, seen)
      next.2.2.2 = seen ++ asked ∧
        Step setup.format c (.startTest id path) asked next.1 next.2.1 := by
  simp only [Operation.perform, outcome_map, outcome_startTest]
  rcases found : c.sessions.get? id with _ | ⟨_ | active, executions⟩
  · exact ⟨[], (List.append_nil _).symm, .startUnknown (.inl found)⟩
  · cases held : c.arena.get? id with
    | none => exact ⟨[], (List.append_nil _).symm, .startUnknown (.inr held)⟩
    | some s =>
      simp only [Setup.observed, outcome_noted]
      rcases begun : (setup.recorder.beginWindow s path).outcome w with ⟨h | _, w'⟩
      · exact ⟨_, rfl, .notBegun found rfl held h⟩
      · exact ⟨_, rfl, .begun found rfl held⟩
  · exact ⟨[], (List.append_nil _).symm, .startBusy found rfl⟩

theorem endTest_step (setup : Setup σ) (id : String) (execution : Execution) (retrieve : Bool)
    (c : Collector) (w : σ) (seen : List Inquiry) :
    ∃ asked, let next :=
        ((Operation.endTest id execution retrieve).perform setup.observed).outcome (c, w, seen)
      next.2.2.2 = seen ++ asked ∧
        Step setup.format c (.endTest id execution retrieve) asked next.1 next.2.1 := by
  simp only [Operation.perform, outcome_map, outcome_endTest]
  rcases found : c.sessions.get? id with _ | r
  · exact ⟨[], (List.append_nil _).symm, .endUnknown (.inl found)⟩
  · by_cases running : r.active = some execution.path
    · simp only [if_pos running]
      cases held : c.arena.get? id with
      | none => exact ⟨[], (List.append_nil _).symm, .endUnknown (.inr held)⟩
      | some s =>
        simp only [Setup.observed, outcome_noted]
        rcases closed : (setup.recorder.endWindow s execution.path).outcome w
          with ⟨h | coverage, w'⟩
        · exact ⟨_, rfl, .notClosed found running held h⟩
        · exact ⟨_, rfl, .closed found running held coverage⟩
    · simp only [if_neg running]
      exact ⟨[], (List.append_nil _).symm, .endNotRunning found running⟩

theorem writeExecutions_asks (setup : Setup σ) (executions : List Execution) (w : σ)
    (seen : List Inquiry) :
    ∃ files, ((writeExecutions setup.observed executions).outcome (w, seen)).2.2 = seen ++ files ∧
      ∀ e ∈ files, e.OnFiles := by
  unfold writeExecutions
  cases place : setup.artifactDirectory with
  | none => exact ⟨[], by simp [Setup.observed, place], by simp⟩
  | some directory =>
    simp only [Setup.observed, place]
    rcases ensured : (setup.disk.ensureDirectory directory).outcome w with ⟨(e | _) | _, w₁⟩
    · exact ⟨_, by simp [ensured]; rfl, by simp [Inquiry.OnFiles]⟩
    · exact ⟨_, by simp [ensured]; rfl, by simp [Inquiry.OnFiles]⟩
    · rcases timed : setup.clock.epochMillis.outcome w₁ with ⟨_ | now, w₂⟩
      · exact ⟨_, by simp [ensured, timed]; rfl, by simp [Inquiry.OnFiles]⟩
      · rcases wrote : (setup.disk.write
          (directory.child (Text.Utf8.encode (executionsName now)))
          (Text.Utf8.encode (executionsText executions))).outcome w₂ with ⟨(e | _) | _, w₃⟩
        all_goals
          exact ⟨_, by simp [ensured, timed, wrote]; rfl, by simp [Inquiry.OnFiles]⟩

theorem deliver_asks (setup : Setup σ) (id : String) (s : Snapshot) (w : σ) (seen : List Inquiry) :
    ∃ delivery, let next := (deliver setup.observed id s).outcome (w, seen)
      next.2.2 = seen ++ delivery ∧
        Delivering s setup.format delivery (next.1.map fun _ => .done) := by
  unfold deliver
  simp only [Setup.observed]
  rcases built : (setup.recorder.buildReport s setup.format).outcome w with ⟨h | report, w₁⟩
  · exact ⟨_, by simp [built]; rfl, by simpa [built] using .notBuilt h⟩
  · rcases stored : (setup.store.store report).outcome w₁ with ⟨(e | _) | _, w₂⟩
    · exact ⟨_, by simp [built, stored]; rfl, by simpa [built, stored] using .notStored report _⟩
    · exact ⟨_, by simp [built, stored]; rfl, by simpa [built, stored] using .notStored report _⟩
    · exact ⟨_, by simp [built, stored]; rfl, by simpa [built, stored] using .stored report⟩

theorem endRun_step (setup : Setup σ) (id : String) (upload : Bool) (c : Collector) (w : σ)
    (seen : List Inquiry) :
    ∃ asked, let next := ((Operation.endRun id upload).perform setup.observed).outcome (c, w, seen)
      next.2.2.2 = seen ++ asked ∧
        Step setup.format c (.endRun id upload) asked next.1 next.2.1 := by
  simp only [Operation.perform, outcome_map, outcome_endRun]
  rcases found : c.sessions.get? id with _ | r
  · exact ⟨[], (List.append_nil _).symm, .runUnknown found⟩
  · cases held : c.arena.get? id with
    | none => exact ⟨[], (List.append_nil _).symm, .runLost found held⟩
    | some s =>
      obtain ⟨files, notes, onFiles⟩ := writeExecutions_asks setup r.executions w seen
      rcases written : (writeExecutions setup.observed r.executions).outcome (w, seen)
        with ⟨result, w', seen'⟩
      rw [written] at notes
      subst notes
      rcases result with (e | _) | path
      case error.unwound =>
        simp only [written]
        exact ⟨files, rfl, .writingUnwound found held onFiles⟩
      all_goals
        simp only [written]
        cases upload with
        | false => exact ⟨files, rfl, .ended found held onFiles⟩
        | true =>
          obtain ⟨delivery, notes, delivering⟩ := deliver_asks setup id s w' (seen ++ files)
          rcases sent : (deliver setup.observed id s).outcome (w', seen ++ files) with ⟨h | _, w''⟩
          all_goals
            rw [sent] at notes delivering
            simp only [if_true]
            exact ⟨files ++ delivery, by rw [← List.append_assoc, ← notes],
              .delivered found held onFiles delivering⟩

theorem perform_step (setup : Setup σ) (op : Operation) (c : Collector) (w : σ)
    (seen : List Inquiry) :
    ∃ asked, let next := (op.perform setup.observed).outcome (c, w, seen)
      next.2.2.2 = seen ++ asked ∧ Step setup.format c op asked next.1 next.2.1 := by
  cases op with
  | register request => exact register_step setup request c w seen
  | startTest id path => exact startTest_step setup id path c w seen
  | endTest id execution retrieve => exact endTest_step setup id execution retrieve c w seen
  | endRun id upload => exact endRun_step setup id upload c w seen

def unobserved {α : Type} (p : α × σ × List Inquiry) : α × σ := (p.1, p.2.1)

theorem writeExecutions_observed (setup : Setup σ) (executions : List Execution) (w : σ)
    (seen : List Inquiry) :
    unobserved ((writeExecutions setup.observed executions).outcome (w, seen)) =
      (writeExecutions setup executions).outcome w := by
  unfold writeExecutions unobserved
  cases place : setup.artifactDirectory with
  | none => simp [Setup.observed, place]
  | some directory =>
    simp only [Setup.observed, place]
    rcases ensured : (setup.disk.ensureDirectory directory).outcome w with ⟨(e | _) | _, w₁⟩
    · simp [ensured]
    · simp [ensured]
    · rcases timed : setup.clock.epochMillis.outcome w₁ with ⟨_ | now, w₂⟩
      · simp [ensured, timed]
      · rcases wrote : (setup.disk.write
          (directory.child (Text.Utf8.encode (executionsName now)))
          (Text.Utf8.encode (executionsText executions))).outcome w₂ with ⟨(e | _) | _, w₃⟩ <;>
          simp [ensured, timed, wrote]

theorem deliver_observed (setup : Setup σ) (id : String) (s : Snapshot) (w : σ)
    (seen : List Inquiry) :
    unobserved ((deliver setup.observed id s).outcome (w, seen)) =
      (deliver setup id s).outcome w := by
  unfold deliver unobserved
  simp only [Setup.observed]
  rcases built : (setup.recorder.buildReport s setup.format).outcome w with ⟨h | report, w₁⟩
  · simp [built]
  · rcases stored : (setup.store.store report).outcome w₁ with ⟨(e | _) | _, w₂⟩ <;>
      simp [built, stored]

theorem Operation.perform_observed (setup : Setup σ) (op : Operation) (c : Collector) (w : σ)
    (seen : List Inquiry) :
    let observed := (op.perform setup.observed).outcome (c, w, seen)
    (observed.1, observed.2.1, observed.2.2.1) = (op.perform setup).outcome (c, w) := by
  cases op with
  | register request =>
    simp only [Operation.perform, outcome_map, outcome_register, Setup.observed, outcome_noted]
    rcases fresh : setup.freshId.outcome w with ⟨h | id, w'⟩
    · rfl
    · rcases reset : (setup.recorder.reset (c.arena.allocate id).1).outcome w' with ⟨h | _, w''⟩ <;>
        simp only [outcome_noted, reset]
  | startTest id path =>
    simp only [Operation.perform, outcome_map, outcome_startTest]
    rcases found : c.sessions.get? id with _ | ⟨_ | active, executions⟩
    · rfl
    · cases held : c.arena.get? id with
      | none => rfl
      | some s =>
        simp only [Setup.observed, outcome_noted]
        rcases begun : (setup.recorder.beginWindow s path).outcome w with ⟨h | _, w'⟩ <;> rfl
    · rfl
  | endTest id execution retrieve =>
    simp only [Operation.perform, outcome_map, outcome_endTest]
    rcases found : c.sessions.get? id with _ | r
    · rfl
    · by_cases running : r.active = some execution.path
      · simp only [if_pos running]
        cases held : c.arena.get? id with
        | none => rfl
        | some s =>
          simp only [Setup.observed, outcome_noted]
          rcases closed : (setup.recorder.endWindow s execution.path).outcome w
            with ⟨h | coverage, w'⟩ <;> rfl
      · simp only [if_neg running]
  | endRun id upload =>
    simp only [Operation.perform, outcome_map, outcome_endRun]
    rcases found : c.sessions.get? id with _ | r
    · rfl
    · cases held : c.arena.get? id with
      | none => rfl
      | some s =>
        have wrote := writeExecutions_observed setup r.executions w seen
        rcases written : (writeExecutions setup.observed r.executions).outcome (w, seen)
          with ⟨(e | _) | path, w', seen'⟩
        all_goals
          rw [written] at wrote
          simp only [unobserved] at wrote
          simp only [written, ← wrote]
        all_goals
          cases upload with
          | false => rfl
          | true =>
            have delivered := deliver_observed setup id s w' seen'
            rcases sent : (deliver setup.observed id s).outcome (w', seen')
              with ⟨h | _, w'', seen''⟩
            all_goals
              rw [sent] at delivered
              simp only [unobserved] at delivered
              simp only [if_true, ← delivered]

def Ending (s : Snapshot) : Inquiry → Prop
  | .built s' _ _ => s' = s
  | .stored _ _ => True
  | q => q.OnFiles

theorem Ending.of_onFiles {s : Snapshot} {q : Inquiry} (onFiles : q.OnFiles) : Ending s q := by
  cases q <;> first | exact onFiles | exact onFiles.elim

theorem Delivering.ending {s : Snapshot} {format : Report.Format} {delivery : List Inquiry}
    {result : Result} (delivering : Delivering s format delivery result) :
    ∀ q ∈ delivery, Ending s q := by
  intro q member
  cases delivering with
  | notBuilt h =>
    cases List.mem_singleton.mp member
    rfl
  | notStored report h | stored report =>
    simp only [List.mem_cons, List.not_mem_nil, or_false] at member
    rcases member with rfl | rfl
    · rfl
    · trivial

theorem Step.of_endRun {format : Report.Format} {c c' : Collector} {id : String} {upload : Bool}
    {asked : List Inquiry} {result : Result} {r : SessionRecord} {s : Snapshot}
    (step : Step format c (.endRun id upload) asked result c')
    (found : c.sessions.get? id = some r) (held : c.arena.get? id = some s) :
    c' = c.without id ∧ ∃ files delivery, asked = files ++ delivery ∧ (∀ e ∈ files, e.OnFiles) ∧
      (delivery = [] ∧ (upload = false ∨ result = .error .unwound) ∨
        upload = true ∧ Delivering s format delivery result) := by
  cases step with
  | runUnknown absent => cases absent.symm.trans found
  | runLost found' lost => cases lost.symm.trans held
  | writingUnwound found' held' onFiles =>
    exact ⟨rfl, _, [], (List.append_nil _).symm, onFiles, .inl ⟨rfl, .inr rfl⟩⟩
  | ended found' held' onFiles =>
    exact ⟨rfl, _, [], (List.append_nil _).symm, onFiles, .inl ⟨rfl, .inl rfl⟩⟩
  | delivered found' held' onFiles delivering =>
    cases held.symm.trans held'
    exact ⟨rfl, _, _, rfl, onFiles, .inr ⟨rfl, delivering⟩⟩

end Collector

end TestImpact
