import TestImpact.Proofs.Json.Members
import TestImpact.Run.Execution

namespace TestImpact

open Json

theorem Status.reads (s : Status) : Reads Status.reader s.toJson s := by
  cases s <;> exact .alternative rfl

theorem Execution.reads (e : Execution) : Reads Execution.reader e.toJson e := by
  have written : Written shape.slots _ _ :=
    .member (f := pathMember) (.present (.text e.path)) <|
    .member (f := durationMember) (.present (.natural e.duration)) <|
    .member (f := statusMember) (.present e.status.reads) <|
    .member (f := messageMember) (Member.writes_optional .text nofun e.message) .done
  refine written.object (by decide) (by simp only [toJson, List.append_nil]; rfl)
    fun bound reads => ?_
  obtain ⟨path, duration, status, message, -⟩ := reads
  simp [shape, path, duration, status, message]

theorem Attribution.reads (a : Attribution) : Reads Attribution.reader a.toJson a := by
  have written : Written shape.slots _ _ :=
    .member (f := pathMember) (.present (.text a.path)) <|
    .member (f := statusMember) (Member.writes_optional Status.reads nofun a.status) <|
    .member (f := messageMember) (Member.writes_optional .text nofun a.message) <|
    .member (f := coverageMember) (.present (.text a.coverage)) .done
  refine written.object (by decide) (by simp only [toJson, List.append_assoc]; rfl)
    fun bound reads => ?_
  obtain ⟨path, status, message, coverage, -⟩ := reads
  simp [shape, path, status, message, coverage]

theorem Execution.read_list_pretty (executions : List Execution) :
    Json.read (Reader.list Execution.reader) (Text.Utf8.units (Text.Utf8.encode
      (Value.list (executions.map toJson)).pretty)) = .ok executions := by
  have all : Reads (Reader.list Execution.reader) (.list (executions.map toJson)) executions :=
    .list fun e _ => e.reads
  rw [read_pretty _ all.whole, all.tree]

end TestImpact
