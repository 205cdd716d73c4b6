import TestImpact.Proofs.Collection.Passages

namespace TestImpact.Collector

variable {format : Report.Format} {past : List Passage} {c c' : Collector} {id : String}

def Turn.recorded? (id : String) (t : Turn) : Option Execution :=
  match t.operation, t.result with
  | .endTest session execution _, .ok _ => if session = id then some execution else none
  | _, _ => none

def recorded (id : String) (past : List Passage) : List Execution :=
  past.filterMap fun p => p.turn.recorded? id

theorem recorded_concat (past : List Passage) (p : Passage) :
    recorded id (past ++ [p]) = recorded id past ++ (p.turn.recorded? id).toList := by
  rw [recorded, List.filterMap_append]
  cases recorded : p.turn.recorded? id <;> simp [recorded]
  all_goals rfl

theorem Step.registered_fresh {op : Operation} {asked : List Inquiry} {result : Result}
    (step : Step format c op asked result c') (registers : Turn.Registers ⟨op, result, asked⟩ id) :
    c'.sessions.get? id = some {} := by
  obtain ⟨request, clusters, rfl, rfl⟩ := registers
  cases step with
  | registered => simp

theorem Step.recorded {op : Operation} {asked : List Inquiry} {result : Result}
    (step : Step format c op asked result c')
    (unregistered : ¬ Turn.Registers ⟨op, result, asked⟩ id) {r : SessionRecord}
    (found : c'.sessions.get? id = some r) :
    ∃ before, c.sessions.get? id = some before ∧
      r.executions = before.executions ++ (Turn.recorded? id ⟨op, result, asked⟩).toList := by
  cases step with
  | notIssued | notReset | startUnknown | startBusy | notBegun | endUnknown | endNotRunning
  | runUnknown => exact ⟨r, found, (List.append_nil _).symm⟩
  | registered other =>
    rw [get?_setRecord] at found
    by_cases same : id = other
    · exact absurd ⟨_, _, rfl, by rw [same]⟩ unregistered
    · rw [if_neg same] at found
      exact ⟨r, found, (List.append_nil _).symm⟩
  | @begun other _ before _ known | @notClosed other _ _ before _ known =>
    rw [get?_setRecord] at found
    by_cases same : id = other
    · rw [if_pos same, Option.some.injEq] at found
      subst same found
      exact ⟨before, known, (List.append_nil _).symm⟩
    · rw [if_neg same] at found
      exact ⟨r, found, (List.append_nil _).symm⟩
  | @closed other execution _ before _ known =>
    -- The record is set twice: before the recorder is asked, and with the execution.
    rw [get?_setRecord, get?_setRecord] at found
    by_cases same : id = other
    · rw [if_pos same, Option.some.injEq] at found
      subst same found
      exact ⟨before, known, by simp [Turn.recorded?]⟩
    · rw [if_neg same, if_neg same] at found
      exact ⟨r, found, by simp [Turn.recorded?, Ne.symm same]⟩
  | @runLost other =>
    rw [Table.get?_erase] at found
    by_cases same : id = other
    · simp [same] at found
    · rw [if_neg same] at found
      exact ⟨r, found, (List.append_nil _).symm⟩
  | @writingUnwound other | @ended other | @delivered other =>
    rw [sessions_without] at found
    by_cases same : id = other
    · simp [same] at found
    · rw [if_neg same] at found
      exact ⟨r, found, (List.append_nil _).symm⟩

/-- A session holds the executions of all its tests that were ended since it was registered. -/
theorem Reached.executions (reached : Reached format past c) {before later : List Passage}
    {opening : Passage} (split : past = before ++ opening :: later)
    (registers : opening.turn.Registers id) (once : ∀ p ∈ later, ¬ p.turn.Registers id)
    {r : SessionRecord} (found : c.sessions.get? id = some r) :
    r.executions = recorded id later := by
  induction reached generalizing later r with
  | new => simp at split
  | @turn past c c' op asked result reached step ih =>
    rcases split_concat split with ⟨rfl, rfl, rfl⟩ | ⟨between, rfl, rfl⟩
    · cases found.symm.trans (step.registered_fresh registers)
      rfl
    · have unregistered := once _ (List.mem_append_right _ (List.mem_singleton_self _))
      obtain ⟨held, known, grown⟩ := step.recorded unregistered found
      have earlier := ih rfl (fun p member => once p (List.mem_append_left _ member)) known
      rw [recorded_concat, grown, earlier]

end TestImpact.Collector
