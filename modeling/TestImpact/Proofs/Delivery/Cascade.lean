import TestImpact.Proofs.Delivery.Upload

namespace TestImpact

open Action

variable {σ : Type}

inductive StoreTree (σ : Type)
  | leaf (store : Store σ)
  | fallback (first second : StoreTree σ)

structure Offer (σ : Type) where
  store : Store σ
  report : String
  before : σ
  result : Except (Halt DeliveryError) Delivered
  after : σ

def Offer.Refused (o : Offer σ) : Prop := ∃ e, o.result = .error (.failed e)

def Store.offered (s : Store σ) : Store (σ × List (Offer σ)) where
  description := s.description
  store report := fun (w, made) =>
    let run := s.store report w
    ⟨run.result, (run.state, made ++ [⟨s, report, w, run.result, run.state⟩]), run.log⟩

namespace StoreTree

def store : StoreTree σ → Store σ
  | leaf s => s
  | fallback first second => first.store.orElse second.store

def leaves : StoreTree σ → List (Store σ)
  | leaf s => [s]
  | fallback first second => first.leaves ++ second.leaves

def offered : StoreTree σ → StoreTree (σ × List (Offer σ))
  | leaf s => leaf s.offered
  | fallback first second => fallback first.offered second.offered

end StoreTree

/-- What is offered to some stores, one after another, until one of them does not refuse. -/
structure OneByOne (stores : List (Store σ)) (report : String) (w : σ) (made : List (Offer σ))
    (result : Except (Halt DeliveryError) Delivered) (w' : σ) : Prop where
  /-- Each result is the store's own, from the world that the store found. -/
  genuine : ∀ o ∈ made, (o.store.store o.report).outcome o.before = (o.result, o.after)
  /-- Each store finds the world that the one in front of it left. -/
  threaded : made.map Offer.before ++ [w'] = w :: made.map Offer.after
  /-- No store is left out or asked twice on the way. -/
  from_left : made.map Offer.store <+: stores
  same_report : ∀ o ∈ made, o.report = report
  ends_with_last : ∃ refused last, made = refused ++ [last] ∧ (∀ o ∈ refused, o.Refused) ∧
    last.result = result
  fails_iff : ∀ e, result = .error (.failed e) ↔ made.map Offer.store = stores ∧
    (∀ o ∈ made, o.Refused) ∧ made.getLast?.map Offer.result = some (.error (.failed e))

namespace OneByOne

variable {stores others : List (Store σ)} {report : String} {w w' w'' : σ}
  {made more : List (Offer σ)} {result result' : Except (Halt DeliveryError) Delivered}

theorem result_of_last (turn : OneByOne stores report w made result w') :
    made.getLast?.map Offer.result = some result := by
  obtain ⟨refused, last, rfl, -, own⟩ := turn.ends_with_last
  simp [own]

theorem one {s : Store σ} (asked : (s.store report).outcome w = (result, w')) :
    OneByOne [s] report w [⟨s, report, w, result, w'⟩] result w' where
  genuine o member := by
    cases List.mem_singleton.mp member
    exact asked
  threaded := rfl
  from_left := List.prefix_rfl
  same_report o member := by
    cases List.mem_singleton.mp member
    rfl
  ends_with_last := ⟨[], _, rfl, nofun, rfl⟩
  fails_iff e := by
    constructor
    · rintro rfl
      refine ⟨rfl, fun o member => ?_, rfl⟩
      cases List.mem_singleton.mp member
      exact ⟨e, rfl⟩
    · exact fun failed => Option.some.inj failed.2.2

theorem stop (turn : OneByOne stores report w made result w')
    (kept : ∀ e, result ≠ .error (.failed e)) :
    OneByOne (stores ++ others) report w made result w' where
  genuine := turn.genuine
  threaded := turn.threaded
  from_left := turn.from_left.trans (List.prefix_append ..)
  same_report := turn.same_report
  ends_with_last := turn.ends_with_last
  fails_iff e := by
    refine iff_of_false (kept e) fun ⟨_, _, last⟩ => kept e ?_
    rw [turn.result_of_last] at last
    exact Option.some.inj last

theorem all_refused {e : DeliveryError}
    (turn : OneByOne stores report w made (.error (.failed e)) w') :
    made.map Offer.store = stores ∧ ∀ o ∈ made, o.Refused :=
  have failed := (turn.fails_iff e).mp rfl
  ⟨failed.1, failed.2.1⟩

theorem append {e : DeliveryError} (turn : OneByOne stores report w made (.error (.failed e)) w')
    (next : OneByOne others report w' more result w'') :
    OneByOne (stores ++ others) report w (made ++ more) result w'' where
  genuine o member := (List.mem_append.mp member).elim (turn.genuine o) (next.genuine o)
  threaded := by
    rw [List.map_append, List.map_append, List.append_assoc, next.threaded,
      ← List.singleton_append, ← List.append_assoc, turn.threaded]
    rfl
  from_left := by
    rw [List.map_append, turn.all_refused.1]
    exact (List.prefix_append_right_inj stores).mpr next.from_left
  same_report o member := (List.mem_append.mp member).elim (turn.same_report o) (next.same_report o)
  ends_with_last := by
    obtain ⟨refused, last, rfl, before, own⟩ := next.ends_with_last
    refine ⟨made ++ refused, last, (List.append_assoc ..).symm, fun o member => ?_, own⟩
    exact (List.mem_append.mp member).elim (turn.all_refused.2 o) (before o)
  fails_iff e' := by
    have last : (made ++ more).getLast?.map Offer.result = more.getLast?.map Offer.result := by
      obtain ⟨refused, last, rfl, -⟩ := next.ends_with_last
      rw [← List.append_assoc, List.getLast?_concat, List.getLast?_concat]
    rw [next.fails_iff, last, List.map_append, turn.all_refused.1, List.append_right_inj]
    refine and_congr_right fun _ => and_congr_left fun _ => ?_
    refine ⟨fun refused o member => ?_, fun refused o member => refused o (by simp [member])⟩
    exact (List.mem_append.mp member).elim (turn.all_refused.2 o) (refused o)

end OneByOne

namespace StoreTree

theorem offered_in_turn (tree : StoreTree σ) (report : String) (w : σ) (earlier : List (Offer σ)) :
    ∃ made result w', (tree.offered.store.store report).outcome (w, earlier) =
        (result, w', earlier ++ made) ∧
      (tree.store.store report).outcome w = (result, w') ∧
      OneByOne tree.leaves report w made result w' := by
  -- The second store of a fallback starts from the world and the offers that the first one left.
  induction tree generalizing w earlier with
  | leaf s => exact ⟨_, _, _, rfl, rfl, .one rfl⟩
  | fallback first second ihFirst ihSecond =>
    obtain ⟨made, result, w', offered, asked, turn⟩ := ihFirst w earlier
    simp only [StoreTree.offered, StoreTree.store, leaves, outcome_orElse, offered, asked]
    rcases result with (e | _) | delivered
    · obtain ⟨more, result, w'', offered', asked', next⟩ := ihSecond w' (earlier ++ made)
      refine ⟨made ++ more, result, w'', ?_, asked', turn.append next⟩
      simp only [offered', List.append_assoc]
    · exact ⟨made, _, w', rfl, rfl, turn.stop nofun⟩
    · exact ⟨made, _, w', rfl, rfl, turn.stop nofun⟩

/-- However stores are nested as fallbacks of each other, a report is handed to them one after
    another from left to right, until one of them takes it. -/
theorem report_offered_in_turn (tree : StoreTree σ) (report : String) (w : σ) :
    let (result, w', made) := (tree.offered.store.store report).outcome (w, [])
    (tree.store.store report).outcome w = (result, w') ∧
      OneByOne tree.leaves report w made result w' := by
  obtain ⟨made, result, w', offered, asked, turn⟩ := tree.offered_in_turn report w []
  simp only [offered]
  exact ⟨asked, turn⟩

def named (name : String) (takes : Bool) : StoreTree (List String) :=
  leaf
    { description := name
      store := fun _ => do
        Action.change (· ++ [name])
        if takes then return .uploaded name else .fail (.unreached name "refused") }

example :
    ((fallback (fallback (named "a" false) (named "b" false))
      (fallback (named "c" true) (named "d" true))).store.store "report").outcome [] =
        (.ok (.uploaded "c"), ["a", "b", "c"]) := rfl

end StoreTree

end TestImpact
