import TestImpact.Proofs.Collection.DeliverOnce

namespace TestImpact.Collector

open Action

variable {σ : Type}

structure Passage where
  before : Collector
  turn : Turn
  after : Collector

def passages (setup : Setup σ) : List Operation → Collector → σ → List Passage
  | [], _, _ => []
  | op :: ops, c, w =>
    let (result, c', w', asked) := (op.perform setup.observed).outcome (c, w, [])
    ⟨c, ⟨op, result, asked⟩, c'⟩ :: passages setup ops c' w'

def after (setup : Setup σ) : List Operation → Collector → σ → Collector × σ
  | [], c, w => (c, w)
  | op :: ops, c, w =>
    let (_, c', w') := (op.perform setup).outcome (c, w)
    after setup ops c' w'

theorem operations_passages (setup : Setup σ) (ops : List Operation) (c : Collector) (w : σ) :
    (passages setup ops c w).map (·.turn.operation) = ops := by
  induction ops generalizing c w with
  | nil => rfl
  | cons op ops ih => exact congrArg (op :: ·) (ih ..)

def inquiries (past : List Passage) : List Inquiry := past.flatMap (·.turn.asked)

theorem inquiries_concat (past : List Passage) (p : Passage) :
    inquiries (past ++ [p]) = inquiries past ++ p.turn.asked := by
  simp [inquiries]

inductive Reached (format : Report.Format) : List Passage → Collector → Prop
  | new : Reached format [] {}
  | turn {past : List Passage} {c c' : Collector} {op : Operation} {asked : List Inquiry}
      {result : Result} (reached : Reached format past c)
      (step : Step format c op asked result c') :
      Reached format (past ++ [⟨c, ⟨op, result, asked⟩, c'⟩]) c'

namespace Reached

variable {format : Report.Format} {past before later : List Passage} {c : Collector} {p : Passage}

theorem passages (setup : Setup σ) (reached : Reached setup.format past c) (ops : List Operation)
    (w : σ) :
    Reached setup.format (past ++ Collector.passages setup ops c w) (after setup ops c w).1 := by
  induction ops generalizing past c w with
  | nil => simpa [Collector.passages, after] using reached
  | cons op ops ih =>
    obtain ⟨asked, notes, step⟩ := perform_step setup op c w []
    have same := op.perform_observed setup c w []
    rcases ran : (op.perform setup.observed).outcome (c, w, []) with ⟨result, c', w', seen⟩
    rw [ran] at notes step same
    simp only [List.nil_append] at notes
    subst notes
    simp only [Collector.passages, after, ran, ← same]
    simpa using ih (reached.turn step) w'

theorem at_passage (reached : Reached format past c) (split : past = before ++ p :: later) :
    Reached format before p.before ∧
      Step format p.before p.turn.operation p.turn.asked p.turn.result p.after := by
  induction reached generalizing later with
  | new => simp at split
  | @turn past c c' op asked result reached step ih =>
    rcases split_concat split with ⟨rfl, rfl, rfl⟩ | ⟨between, rfl, rfl⟩
    · exact ⟨reached, step⟩
    · exact ih rfl

end Reached

end TestImpact.Collector
