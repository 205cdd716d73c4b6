import Mathlib.Data.List.Forall2
import TestImpact.Proofs.Json.Grammar

namespace TestImpact.Json

/-- Wherever a value may begin, the text is read as the tree and nothing behind it is touched. -/
def ReadAs (cs : List Char) (t : Tree) : Prop :=
  ∀ {spot : Spot}, spot.TakesValue → ∀ (frames : List Frame) {rest : Source}, rest.EndsNumber →
    (Progress.within spot frames).run (Token.scan (cs.map some ++ rest)) =
      (supply t frames).run (Token.scan rest)

theorem ReadAs.of_scan {cs : List Char} {token : Token} {t : Tree}
    (scan : ∀ {rest : Source}, rest.EndsNumber →
      Token.scan (cs.map some ++ rest) = token :: Token.scan rest)
    (opens : token ≠ .listClose) (begins : ∀ frames, beginValue frames token = supply t frames) :
    ReadAs cs t := fun takes frames _ ends => by
  rw [run_scanned (scan ends) takes opens, begins]

theorem ReadAs.written {v : Value} (whole : v.IsWhole) : ReadAs (v.chars .none 0) v.tree :=
  fun takes frames _ ends => run_chars Spacing.blank_none v whole 0 takes frames ends

theorem Padded.split (p : Padded) (rest : Source) : p.chars.map some ++ rest =
    p.before.chars.map some ++ (p.inner.map some ++ (p.behind.chars.map some ++ rest)) := by
  simp [Padded.chars]

theorem ReadAs.padded {p : Padded} {t : Tree} (reads : ReadAs p.inner t) : ReadAs p.chars t := by
  intro spot takes frames rest ends
  rw [p.split, scan_blanks p.before.blank, reads takes frames
    (endsNumber_of_blanks p.behind.blank ends), scan_blanks p.behind.blank]

/-- One kind of brackets: what is open inside them, the tree they make, and how their tokens move
    the reading on. -/
structure Bracket (β : Type) where
  opener : Char
  closer : Char
  frame : List β → Frame
  tree : List β → Tree
  first : Spot
  next : Spot
  opening : Token
  closing : Token
  opens : punctuation opener = some opening
  begins : opening ≠ .listClose ∧
    ∀ frames, beginValue frames opening = .within first (frame [] :: frames)
  closes : punctuation closer = some closing
  empty : ∀ frames, step first (frame [] :: frames) closing = supply (tree []) frames
  ends : ∀ parts frames,
    step .commaOrClose (frame parts :: frames) closing = supply (tree parts.reverse) frames
  continues : ∀ parts frames,
    step .commaOrClose (frame parts :: frames) .comma = .within next (frame parts :: frames)

namespace Bracket

def items : Bracket Tree where
  opener := '['
  closer := ']'
  frame := .list
  tree ts := .list ts .closed
  first := .itemOrClose
  next := .item
  opening := .listOpen
  closing := .listClose
  opens := rfl
  begins := ⟨nofun, fun _ => rfl⟩
  closes := rfl
  empty _ := rfl
  ends _ _ := rfl
  continues _ _ := rfl

def members : Bracket (TextToken × Tree) where
  opener := '\x7b'
  closer := '\x7d'
  frame := .object
  tree ms := .object ms .closed
  first := .keyOrClose
  next := .key
  opening := .objectOpen
  closing := .objectClose
  opens := rfl
  begins := ⟨nofun, fun _ => rfl⟩
  closes := rfl
  empty _ := rfl
  ends _ _ := rfl
  continues _ _ := rfl

variable {β : Type} (b : Bracket β)

def Takes (cs : List Char) (x : β) : Prop :=
  ∀ {spot : Spot}, spot = b.first ∨ spot = b.next → ∀ (parts : List β) (frames : List Frame)
    {rest : Source}, rest.EndsNumber →
      (Progress.within spot (b.frame parts :: frames)).run (Token.scan (cs.map some ++ rest)) =
        (Progress.within .commaOrClose (b.frame (x :: parts) :: frames)).run (Token.scan rest)

variable {b}

theorem endsNumber_of_parts (b : Bracket β) (texts : List (List Char)) (rest : Source) :
    Source.EndsNumber ((texts.flatMap (',' :: ·)).map some ++ some b.closer :: rest) := by
  cases texts with
  | nil => exact endsNumber_of_punctuation b.closes rest
  | cons => exact endsNumber_of_punctuation (t := .comma) rfl _

theorem run_parts {texts : List (List Char)} {xs : List β} (each : List.Forall₂ b.Takes texts xs)
    (parts : List β) (frames : List Frame) (rest : Source) :
    (Progress.within .commaOrClose (b.frame parts :: frames)).run
        (Token.scan ((texts.flatMap (',' :: ·)).map some ++ some b.closer :: rest)) =
      (supply (b.tree (parts.reverse ++ xs)) frames).run (Token.scan rest) := by
  induction each generalizing parts with
  | nil =>
    rw [List.flatMap_nil, List.map_nil, List.nil_append, scan_punctuation b.closes, Progress.run,
      b.ends, List.append_nil]
  | @cons cs x texts xs takes each ih =>
    rw [List.flatMap_cons, List.map_append, List.append_assoc, List.map_cons, List.cons_append,
      scan_punctuation (t := .comma) rfl, Progress.run, b.continues,
      takes (.inr rfl) parts frames (b.endsNumber_of_parts texts rest), ih (x :: parts)]
    simp

theorem readAs (space : Blanks) {texts : List (List Char)} {xs : List β}
    (each : List.Forall₂ b.Takes texts xs) :
    ReadAs (enclosed b.opener b.closer space texts) (b.tree xs) := by
  intro spot takes frames rest ends
  have split : (enclosed b.opener b.closer space texts).map some ++ rest =
      some b.opener :: (space.chars.map some ++
        (([','].intercalate texts).map some ++ some b.closer :: rest)) := by
    simp [enclosed]
  rw [split, run_scanned (scan_punctuation b.opens _) takes b.begins.1, b.begins.2,
    scan_blanks space.blank]
  cases each with
  | nil =>
    rw [List.intercalate_nil, List.map_nil, List.nil_append, scan_punctuation b.closes,
      Progress.run, b.empty]
  | @cons cs x texts xs takes each =>
    rw [Text.intercalate_cons, List.map_append, List.append_assoc,
      takes (.inl rfl) [] frames (b.endsNumber_of_parts texts rest), run_parts each]
    rfl

end Bracket

theorem ReadAs.item {p : Padded} {t : Tree} (reads : ReadAs p.inner t) :
    Bracket.items.Takes p.chars t := by
  intro spot place parts frames rest ends
  have takes : spot.TakesValue := by rcases place with rfl | rfl <;> trivial
  exact reads.padded takes _ ends

theorem ReadAs.list (space : Blanks) {items : List Padded} {ts : List Tree}
    (each : List.Forall₂ (fun p t => ReadAs p.inner t) items ts) :
    ReadAs (listChars space items) (.list ts .closed) :=
  Bracket.items.readAs space <|
    List.forall₂_map_left_iff.mpr (each.imp fun _ _ reads => reads.item)

structure Pair.ReadAs (m : Pair) (x : TextToken × Tree) : Prop where
  key : ∃ pieces, IsText m.key.inner pieces ∧ x.1 = ⟨pieces, .closed⟩
  value : Json.ReadAs m.value.inner x.2

theorem Pair.ReadAs.takes {m : Pair} {x : TextToken × Tree} (reads : m.ReadAs x) :
    Bracket.members.Takes m.chars x := by
  intro spot place parts frames rest ends
  obtain ⟨key, t⟩ := x
  obtain ⟨pieces, text, rfl⟩ := reads.key
  have keyed : step spot (.object parts :: frames) (.text ⟨pieces, .closed⟩) =
      .within (.colon ⟨pieces, .closed⟩) (.object parts :: frames) := by
    rcases place with rfl | rfl <;> rfl
  have anywhere : Spot.TakesValue .value := trivial
  have split : m.chars.map some ++ rest =
      m.key.chars.map some ++ some ':' :: (m.value.chars.map some ++ rest) := by
    simp [Pair.chars]
  rw [split, m.key.split, scan_blanks m.key.before.blank, text.scan, Progress.run]
  show (step spot (.object parts :: frames) _).run _ = _
  rw [keyed, scan_blanks m.key.behind.blank, scan_punctuation (t := .colon) rfl, Progress.run, step,
    Json.ReadAs.padded reads.value anywhere _ ends]
  rfl

theorem ReadAs.object (space : Blanks) {members : List Pair} {xs : List (TextToken × Tree)}
    (each : List.Forall₂ Pair.ReadAs members xs) :
    ReadAs (objectChars space members) (.object xs .closed) :=
  Bracket.members.readAs space <|
    List.forall₂_map_left_iff.mpr (each.imp fun _ _ reads => reads.takes)

theorem skipItems_of_forall {ts : List Tree} (each : ∀ t ∈ ts, t.skip = .ok ()) :
    skipItems ts = .ok () := by
  induction ts with
  | nil => rfl
  | cons t ts ih =>
    rw [skipItems, each t List.mem_cons_self, ih fun u member => each u (.tail _ member)]
    rfl

theorem skipMembers_of_forall {xs : List (TextToken × Tree)}
    (each : ∀ x ∈ xs, x.1.skip = .ok () ∧ x.2.skip = .ok ()) : skipMembers xs = .ok () := by
  induction xs with
  | nil => rfl
  | cons x xs ih =>
    obtain ⟨key, t⟩ := x
    obtain ⟨keySkips, skips⟩ := each (key, t) List.mem_cons_self
    rw [skipMembers, keySkips, skips, ih fun y member => each y (.tail _ member)]
    rfl

theorem exists_forall₂ {α β : Type} {R : α → β → Prop} {as : List α} (each : ∀ a ∈ as, ∃ b, R a b) :
    ∃ bs, List.Forall₂ R as bs := by
  induction as with
  | nil => exact ⟨[], .nil⟩
  | cons a as ih =>
    obtain ⟨b, related⟩ := each a List.mem_cons_self
    obtain ⟨bs, rest⟩ := ih fun c member => each c (.tail _ member)
    exact ⟨b :: bs, .cons related rest⟩

theorem exists_of_forall₂ {α β : Type} {R : α → β → Prop} {as : List α} {bs : List β}
    (each : List.Forall₂ R as bs) : ∀ b ∈ bs, ∃ a ∈ as, R a b := by
  induction each with
  | nil => nofun
  | @cons a b as bs related rest ih =>
    intro c member
    rcases List.mem_cons.mp member with rfl | member
    · exact ⟨a, List.mem_cons_self, related⟩
    · obtain ⟨d, source, related⟩ := ih c member
      exact ⟨d, .tail _ source, related⟩

/-- Any text of the grammar is read as one tree, and its reader may read past it. -/
theorem WellFormed.readAs {cs : List Char} (formed : WellFormed cs) :
    ∃ t, ReadAs cs t ∧ t.skip = .ok () := by
  induction formed with
  | null => exact ⟨.null, ReadAs.of_scan (fun _ => scan_null _) (by simp) fun _ => rfl, rfl⟩
  | true =>
    exact ⟨.bool Bool.true, ReadAs.of_scan (fun _ => scan_true _) (by simp) fun _ => rfl, rfl⟩
  | false =>
    exact ⟨.bool Bool.false, ReadAs.of_scan (fun _ => scan_false _) (by simp) fun _ => rfl, rfl⟩
  | number number =>
    obtain ⟨n, scan⟩ := number.scan
    exact ⟨.number (.complete n), ReadAs.of_scan scan (by simp) fun _ => rfl, rfl⟩
  | @text cs pieces text =>
    exact ⟨.text ⟨pieces, .closed⟩,
      ReadAs.of_scan (fun _ => text.scan) (by simp) fun _ => rfl, rfl⟩
  | list space each ih =>
    obtain ⟨ts, reads⟩ := exists_forall₂ ih
    refine ⟨.list ts .closed, ReadAs.list space (reads.imp fun _ _ both => both.1), ?_⟩
    rw [Tree.skip, skipItems_of_forall]
    · rfl
    · intro t member
      obtain ⟨p, -, -, skips⟩ := exists_of_forall₂ reads t member
      exact skips
  | @object space members keys values ih =>
    have each : ∀ m ∈ members, ∃ x, Pair.ReadAs m x ∧ x.1.skip = .ok () ∧ x.2.skip = .ok () := by
      intro m member
      obtain ⟨pieces, text⟩ := keys m member
      obtain ⟨t, reads, skips⟩ := ih m member
      exact ⟨(⟨pieces, .closed⟩, t), ⟨⟨pieces, text, rfl⟩, reads⟩, rfl, skips⟩
    obtain ⟨xs, reads⟩ := exists_forall₂ each
    refine ⟨.object xs .closed, ReadAs.object space (reads.imp fun _ _ both => both.1), ?_⟩
    rw [Tree.skip, skipMembers_of_forall]
    · rfl
    · intro x member
      obtain ⟨m, -, -, skips⟩ := exists_of_forall₂ reads x member
      exact skips

end TestImpact.Json
