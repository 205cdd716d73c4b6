import TestImpact.Proofs.Json.Records

namespace TestImpact.Json

variable {α β : Type}

/-- A value that can be written, and whose tree is read as `a`. -/
structure Reads (r : Reader α) (v : Value) (a : α) : Prop where
  whole : v.IsWhole
  tree : r v.tree = .ok a

namespace Reads

theorem text (s : String) : Reads Reader.text (.text s) s := ⟨trivial, text_tree s⟩

theorem natural (n : UInt64) : Reads Reader.natural (.natural n) n := ⟨trivial, natural_tree n⟩

theorem alternative {choices : List (String × Alternative α)} {name : String} {a : α}
    (known : choices.lookup name = some (.bare a)) :
    Reads (Alternative.reader choices) (.text name) a := ⟨trivial, alternative_tree known⟩

theorem allWhole_map {f : α → Value} {as : List α} (whole : ∀ a ∈ as, (f a).IsWhole) :
    AllWhole (as.map f) := by
  induction as with
  | nil => trivial
  | cons a as ih =>
    exact ⟨whole a List.mem_cons_self, ih fun b member => whole b (List.mem_cons_of_mem _ member)⟩

theorem list {r : Reader α} {f : α → Value} {as : List α} (reads : ∀ a ∈ as, Reads r (f a) a) :
    Reads (Reader.list r) (.list (as.map f)) as where
  whole := allWhole_map fun a member => (reads a member).whole
  tree := list_tree as fun a member => (reads a member).tree

end Reads

/-- How a record's member is written: as a value that is read back, or not at all where its absence
    stands for the same. -/
inductive Member.Writes (f : Member β) (b : β) : List (String × Value) → Prop
  | present {v : Value} (reads : Reads f.reader v b) : Writes f b [(f.name, v)]
  | absent (stands : f.absent = some b) : Writes f b []

theorem Member.writes_optional {name : String} {r : Reader β} {f : β → Value}
    (reads : ∀ b, Reads r (f b) b) (present : ∀ b, f b ≠ .null) (o : Option β) :
    (Member.optional name r).Writes o (Value.optional name f o) := by
  cases o with
  | none => exact .absent rfl
  | some b => exact .present ⟨(reads b).whole, optional_tree (present b) (reads b).tree⟩

inductive Written : List Slot → List (String × Value) → ((String → Option Tree) → Prop) → Prop
  | done : Written [] [] fun _ => True
  | member {γ : Type} {f : Member γ} {b : γ} {piece ms : List (String × Value)} {slots : List Slot}
      {reads : (String → Option Tree) → Prop} (writes : f.Writes b piece)
      (rest : Written slots ms reads) :
      Written (f.slot :: slots) (piece ++ ms) fun bound => f.get bound = .ok b ∧ reads bound

theorem Member.get_of_some {f : Member β} {bound : String → Option Tree} {t : Tree} {b : β}
    (found : bound f.name = some t) (read : f.reader t = .ok b) : f.get bound = .ok b := by
  rw [Member.get, found]
  exact read

theorem Member.get_of_none {f : Member β} {bound : String → Option Tree} {b : β}
    (missing : bound f.name = none) (stands : f.absent = some b) : f.get bound = .ok b := by
  rw [Member.get, missing, stands]

namespace Written

variable {slots : List Slot} {ms : List (String × Value)} {reads : (String → Option Tree) → Prop}

theorem names (written : Written slots ms reads) :
    (ms.map Prod.fst).Sublist (slots.map Slot.name) := by
  induction written with
  | done => exact .slnil
  | member writes rest ih =>
    cases writes with
    | present => exact ih.cons_cons _
    | absent => exact ih.cons _

theorem whole (written : Written slots ms reads) : MembersWhole ms := by
  induction written with
  | done => trivial
  | member writes rest ih =>
    cases writes with
    | present value => exact ⟨value.whole, ih⟩
    | absent => exact ih

theorem passes (written : Written slots ms reads) (distinct : (slots.map Slot.name).Nodup)
    {m : String × Value} (member : m ∈ ms) :
    ∃ slot, slots.find? (·.name = m.1) = some slot ∧ slot.check m.2.tree = .ok () := by
  induction written with
  | done => cases member
  | @member β f b piece ms slots reads writes rest ih =>
    obtain ⟨apart, distinct⟩ := List.nodup_cons.mp distinct
    rcases List.mem_append.mp member with here | later
    · cases writes with
      | absent => cases here
      | present value =>
        rw [List.mem_singleton.mp here]
        exact ⟨f.slot, List.find?_cons_of_pos (decide_eq_true rfl), Member.check_slot value.tree⟩
    · obtain ⟨slot, found, check⟩ := ih distinct later
      have named : m.1 ∈ slots.map Slot.name :=
        rest.names.subset (List.mem_map_of_mem later)
      have other : f.slot.name ≠ m.1 := fun same => apart (same ▸ named)
      exact ⟨slot, by rwa [List.find?_cons_of_neg (by simpa using other)], check⟩

theorem reads_of_bound (written : Written slots ms reads)
    (distinct : (slots.map Slot.name).Nodup) {bound : String → Option Tree}
    (binds : ∀ name ∈ slots.map Slot.name, bound name = (ms.lookup name).map Value.tree) :
    reads bound := by
  induction written with
  | done => trivial
  | @member β f b piece ms slots reads writes rest ih =>
    obtain ⟨apart, distinct⟩ := List.nodup_cons.mp distinct
    have unnamed : ms.lookup f.name = none := by
      rw [List.lookup_eq_none_iff]
      intro m member
      have named : m.1 ∈ slots.map Slot.name := rest.names.subset (List.mem_map_of_mem member)
      exact bne_iff_ne.mpr fun same => apart (same ▸ named : f.name ∈ _)
    have own := binds f.name List.mem_cons_self
    cases writes with
    | present value =>
      refine ⟨Member.get_of_some (by simpa using own) value.tree, ih distinct fun name named => ?_⟩
      have other : (name == f.name) = false :=
        beq_eq_false_iff_ne.mpr fun same => apart (same ▸ named : f.name ∈ _)
      rw [binds name (List.mem_cons_of_mem _ named), List.singleton_append, List.lookup_cons, other]
    | absent stands =>
      refine ⟨Member.get_of_none ?_ stands, ih distinct fun name named =>
        binds name (List.mem_cons_of_mem _ named)⟩
      simpa [unnamed] using own

theorem object {s : Shape α} (written : Written s.slots ms reads)
    (distinct : (s.slots.map Slot.name).Nodup) {v : Value} (members : v = .object ms) {a : α}
    (builds : ∀ bound, reads bound → s.build bound = .ok a) : Reads s.reader v a where
  whole := by
    rw [members]
    exact written.whole
  tree := by
    rw [members]
    have apart : (ms.map Prod.fst).Nodup := written.names.nodup distinct
    rw [object_tree s apart fun m member => written.passes distinct member]
    exact builds _ (written.reads_of_bound distinct fun _ _ => rfl)

end Written

end TestImpact.Json
