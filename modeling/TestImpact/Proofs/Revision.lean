import TestImpact.Proofs.Except
import TestImpact.Proofs.Run.Records
import TestImpact.Proofs.Text.Pieces
import TestImpact.Revision

namespace TestImpact

open Json

theorem Json.read_refine_iff {α β : Type} {r : Reader α} {f : α → Except Fault β} {source : Source}
    {b : β} : Json.read (r.refine f) source = .ok b ↔
      ∃ a, Json.read r source = .ok a ∧ f a = .ok b := by
  simp only [Json.read, Reader.refine]
  cases r (Tree.ofTokens (Token.scan source)).1 with
  | error fault => simp
  | ok a =>
    by_cases spent : (Tree.ofTokens (Token.scan source)).2.isEmpty <;>
      cases made : f a <;> simp [spent, made]

theorem Json.Reads.carrying {α : Type} {choices : List (String × Alternative α)} {name : String}
    {r : Reader α} {v : Value} {a : α} (known : choices.lookup name = some (.carrying r))
    (reads : Reads r v a) : Reads (Alternative.reader choices) (.object [(name, v)]) a where
  whole := ⟨reads.whole, trivial⟩
  tree := by
    simp [Value.tree, memberTrees, Alternative.reader, Alternative.named, known, reads.tree]

theorem Json.Reads.map {α β : Type} {r : Reader α} {v : Value} {a : α} (f : α → β)
    (reads : Reads r v a) : Reads (fun t => (r t).map f) v (f a) where
  whole := reads.whole
  tree := by simp [reads.tree, Except.map]

namespace Commit

variable {branch timestamp name : String} {c : Commit}

theorem make_eq_ok_iff : make branch timestamp = .ok c ↔
    ':' ∉ branch.toList ∧ c.branch = branch ∧ c.timestamp = timestamp := by
  obtain ⟨branch', timestamp', bare⟩ := c
  unfold make
  split
  · rename_i plain
    simp [plain, eq_comm]
  · rename_i colon
    simp [colon]

theorem ofName_eq_ok_iff : ofName name = .ok c ↔ name ≠ "" ∧ c = parse name := by
  unfold ofName
  split <;> simp_all [eq_comm]

theorem toList_text (c : Commit) :
    c.text.toList = c.branch.toList ++ ':' :: c.timestamp.toList := by
  simp [text]

theorem text_parse (name : String) :
    (parse name).text = if ':' ∈ name.toList then name else "master:" ++ name := by
  unfold parse
  split
  · rename_i colon
    obtain ⟨front, back, split, first⟩ := List.eq_append_cons_of_mem colon
    rw [← String.toList_inj, toList_text, String.toList_ofList, String.toList_ofList, split,
      Text.takeWhile_append_cons first, Text.dropWhile_append_cons first]
    rfl
  · rfl

theorem parse_text (c : Commit) : parse c.text = c := by
  have chars := c.toList_text
  have colon : ':' ∈ c.text.toList := by simp [chars]
  unfold parse
  rw [if_pos colon]
  simp only [chars, Text.takeWhile_append_cons c.colon_not_mem,
    Text.dropWhile_append_cons c.colon_not_mem, List.drop_one, List.tail_cons, String.ofList_toList]

theorem ofName_text (c : Commit) : ofName c.text = .ok c := by
  refine ofName_eq_ok_iff.mpr ⟨fun empty => ?_, c.parse_text.symm⟩
  have chars := c.toList_text
  simp [empty] at chars

theorem reads (c : Commit) : Reads reader c.toJson c where
  whole := trivial
  tree := by
    simp [reader, Reader.refine, toJson, text_tree, ofName_text]

end Commit

namespace Revision

theorem reads (r : Revision) : Reads reader r.toJson r := by
  cases r with
  | commit c => exact .carrying rfl (c.reads.map commit)
  | id text => exact .carrying rfl ((Reads.text text).map id)

theorem formField_injective {r r' : Revision} (same : r.formField = r'.formField) : r = r' := by
  cases r with
  | commit c =>
    cases r' with
    | commit c' =>
      have texts : c.text = c'.text := congrArg Prod.snd same
      rw [← c.parse_text, texts, c'.parse_text]
    | id text => exact absurd (congrArg Prod.fst same) (by simp [formField])
  | id text =>
    cases r' with
    | commit c => exact absurd (congrArg Prod.fst same) (by simp [formField])
    | id text' => rw [show text = text' from congrArg Prod.snd same]

end Revision

/-- However a commit came about, its branch holds no colon, and its text and its JSON are read as
    the commit again. A text with a colon is kept as it is and any other gets the default branch in
    front; the empty one is refused where a commit has to be given and in JSON. Revisions are read
    back too, and each has a form field of its own. -/
theorem revisions_read_back :
    (∀ c : Commit, ':' ∉ c.branch.toList ∧ Commit.parse c.text = c ∧ Commit.ofName c.text = .ok c ∧
      ReadsBack Commit.reader c.toJson c) ∧
    (∀ branch timestamp, (∃ c, Commit.make branch timestamp = .ok c) ↔ ':' ∉ branch.toList) ∧
    (∀ branch timestamp c, Commit.make branch timestamp = .ok c ↔
      ':' ∉ branch.toList ∧ c.branch = branch ∧ c.timestamp = timestamp) ∧
    (∀ name, (Commit.parse name).text =
      if ':' ∈ name.toList then name else "master:" ++ name) ∧
    (∀ name c, Commit.ofName name = .ok c ↔ name ≠ "" ∧ c = Commit.parse name) ∧
    (∀ source c, Json.read Commit.reader source = .ok c ↔
      ∃ name, Json.read Reader.text source = .ok name ∧ Commit.ofName name = .ok c) ∧
    (∀ r : Revision, ReadsBack Revision.reader r.toJson r) ∧
    ∀ r r' : Revision, r.formField = r'.formField ↔ r = r' := by
  refine ⟨fun c => ⟨c.colon_not_mem, c.parse_text, c.ofName_text, c.reads.back⟩, ?_,
    fun _ _ _ => Commit.make_eq_ok_iff, Commit.text_parse, fun _ _ => Commit.ofName_eq_ok_iff, ?_,
    fun r => r.reads.back, fun r r' => ⟨Revision.formField_injective, congrArg _⟩⟩
  · intro branch timestamp
    simp only [Commit.make_eq_ok_iff]
    exact ⟨fun ⟨c, bare, _⟩ => bare, fun bare => ⟨⟨branch, timestamp, bare⟩, bare, rfl, rfl⟩⟩
  · intro source c
    rw [Commit.reader, Json.read_refine_iff]
    refine exists_congr fun name => and_congr_right fun _ => ?_
    cases Commit.ofName name <;> simp

end TestImpact
