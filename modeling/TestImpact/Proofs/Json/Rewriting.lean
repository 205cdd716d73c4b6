import Mathlib.Data.List.Nodup
import TestImpact.Proofs.Json.Brackets
import TestImpact.Proofs.Json.Members

namespace TestImpact.Json

structure Entry extends Pair where
  name : String
  spelt : ∃ pieces, IsText key.inner pieces ∧ Denotes pieces name.toList

def Entry.own (name : String) (value : Padded) : Entry where
  key := .bare (textChars name)
  value := value
  name := name
  spelt := ⟨_, .written name, .written name.toList⟩

/-- The members of an object of a type with these fields, written anew: each as its field may be
    rewritten, in any order, with a null for some that were left out, and with others that are none
    of the fields. -/
structure Rearrangement (fields : List String) (rewrites : String → Value → List Char → Prop)
    (ms : List (String × Value)) where
  kept : List Entry
  omitted : List Entry
  added : List Entry
  entries : List Entry
  parts : entries.Perm (kept ++ omitted ++ added)
  keeps : List.Forall₂ (fun m e => e.name = m.1 ∧ rewrites m.1 m.2 e.value.inner) ms kept
  once : (omitted.map Entry.name).Nodup
  omits : ∀ e ∈ omitted, e.name ∈ fields ∧ e.name ∉ ms.map Prod.fst ∧
    e.value.inner = ['n', 'u', 'l', 'l']
  adds : ∀ e ∈ added, e.name ∉ fields ∧ WellFormed e.value.inner

/-- How the values of a type are laid out: which are records, and with which fields. -/
inductive Layout
  | plain
  | list (item : Layout)
  | record (fields : List String) (layout : String → Layout)

def Layout.Rewrites : Layout → Value → List Char → Prop
  | .plain, v, cs => cs = v.chars .none 0
  | .list item, .list vs, cs => ∃ space items,
    List.Forall₂ (fun v (p : Padded) => item.Rewrites v p.inner) vs items ∧
      cs = listChars space items
  | .record fields layout, .object ms, cs => ∃ space,
    ∃ r : Rearrangement fields (fun name => (layout name).Rewrites) ms,
      cs = objectChars space (r.entries.map Entry.toPair)
  | _, _, _ => False

def Tolerates {α : Type} (layout : Layout) (r : Reader α) (v : Value) (a : α) : Prop :=
  ∀ cs : List Char, layout.Rewrites v cs → ∃ t, ReadAs cs t ∧ r t = .ok a

section Values

variable {α : Type} {r : Reader α} {v : Value} {a : α}

theorem Tolerates.plain (reads : Reads r v a) : Tolerates .plain r v a := by
  rintro cs rfl
  exact ⟨v.tree, ReadAs.written reads.whole, reads.tree⟩

theorem Tolerates.list {layout : Layout} {f : α → Value} {as : List α}
    (each : ∀ a ∈ as, Tolerates layout r (f a) a) :
    Tolerates (.list layout) (Reader.list r) (.list (as.map f)) as := by
  rintro cs ⟨space, items, rewrites, rfl⟩
  rw [List.forall₂_map_left_iff] at rewrites
  have pairs : ∃ pairs : List (Tree × α), pairs.map Prod.snd = as ∧
      List.Forall₂ (fun p t => ReadAs p.inner t) items (pairs.map Prod.fst) ∧
      ∀ pair ∈ pairs, r pair.1 = .ok pair.2 := by
    induction rewrites with
    | nil => exact ⟨[], rfl, .nil, nofun⟩
    | @cons a p as items rewrites rest ih =>
      obtain ⟨t, reads, read⟩ := each a List.mem_cons_self p.inner rewrites
      obtain ⟨pairs, rfl, more, same⟩ := ih fun b member => each b (.tail _ member)
      exact ⟨(t, a) :: pairs, rfl, .cons reads more, List.forall_mem_cons.mpr ⟨read, same⟩⟩
  obtain ⟨pairs, same, reads, read⟩ := pairs
  refine ⟨.list (pairs.map Prod.fst) .closed, ReadAs.list space reads, ?_⟩
  simp [Reader.list, mapM_eq_ok_iff.mpr ⟨pairs, rfl, same, read⟩, ListStop.check]

end Values

/-- A member of a record with its value, and how the value is encoded unless it is left out. -/
structure Field where
  {γ : Type}
  member : Member γ
  value : γ
  encoded : Option Value

namespace Field

def name (f : Field) : String := f.member.name

def slot (f : Field) : Slot := f.member.slot

def written (f : Field) : List (String × Value) := f.encoded.toList.map (f.name, ·)

/-- The field's value is read from every rewriting of its encoding, and where it is left out its
    absence stands for it, and so does a null. -/
structure Tolerant (layout : Layout) (f : Field) : Prop where
  present : ∀ v, f.encoded = some v → Tolerates layout f.member.reader v f.value
  absent : f.encoded = none → f.member.absent = some f.value ∧ f.member.reader .null = .ok f.value

def Reads (f : Field) (t : Tree) : Prop := f.member.reader t = .ok f.value

variable {fields : List Field} {m : String × Value}

theorem exists_of_mem_written (member : m ∈ fields.flatMap written) :
    ∃ f ∈ fields, f.name = m.1 ∧ f.encoded = some m.2 := by
  obtain ⟨f, among, own⟩ := List.mem_flatMap.mp member
  obtain ⟨v, encoded, rfl⟩ := List.mem_map.mp own
  exact ⟨f, among, rfl, by simpa using encoded⟩

theorem names_written (fields : List Field) :
    ((fields.flatMap written).map Prod.fst).Sublist (fields.map name) := by
  induction fields with
  | nil => exact .slnil
  | cons f fields ih =>
    rw [List.flatMap_cons, List.map_append, List.map_cons]
    cases encoded : f.encoded with
    | none => simpa [written, encoded] using ih.cons _
    | some v => simpa [written, encoded] using ih

theorem leftOut_of_unnamed {f : Field} (among : f ∈ fields)
    (unnamed : f.name ∉ (fields.flatMap written).map Prod.fst) : f.encoded = none := by
  rw [Option.eq_none_iff_forall_not_mem]
  intro v encoded
  have own : (f.name, v) ∈ f.written := by simp [written, Option.mem_def.mp encoded]
  exact unnamed (List.mem_map_of_mem (List.mem_flatMap.mpr ⟨f, among, own⟩))

theorem eq_of_name (distinct : (fields.map name).Nodup) {f g : Field} (hf : f ∈ fields)
    (hg : g ∈ fields) (same : f.name = g.name) : f = g :=
  List.inj_on_of_nodup_map distinct hf hg same

end Field

/-- The parts that a member of an object is read as suit the fields: a field is read from the one
    under its name, and one under any other name may be read past. -/
structure Entry.Suits (fields : List Field) (e : Entry) (x : TextToken × Tree) : Prop where
  key : x.1.text = .ok e.name
  reads : ∀ f ∈ fields, f.name = e.name → f.Reads x.2
  skips : e.name ∉ fields.map Field.name → x.2.skip = .ok ()

theorem Entry.exists_suiting {fields : List Field} {e : Entry} {t : Tree}
    (value : ReadAs e.value.inner t) (reads : ∀ f ∈ fields, f.name = e.name → f.Reads t)
    (skips : e.name ∉ fields.map Field.name → t.skip = .ok ()) :
    ∃ x, Pair.ReadAs e.toPair x ∧ e.Suits fields x := by
  obtain ⟨pieces, text, denotes⟩ := e.spelt
  refine ⟨(⟨pieces, .closed⟩, t), ⟨⟨pieces, text, rfl⟩, value⟩, ?_, reads, skips⟩
  rw [denotes.text, String.ofList_toList]

section Binding

variable {fields : List Field} {entries : List Entry} {xs : List (TextToken × Tree)}

theorem unknown_slot {name : String} (unknown : name ∉ fields.map Field.name) :
    (fields.map Field.slot).find? (·.name = name) = none := by
  rw [List.find?_eq_none]
  rintro s member
  obtain ⟨f, among, rfl⟩ := List.mem_map.mp member
  refine fun same => unknown ?_
  exact List.mem_map.mpr ⟨f, among, of_decide_eq_true same⟩

theorem exists_slot {e : Entry} {x : TextToken × Tree} (suits : e.Suits fields x)
    (known : e.name ∈ fields.map Field.name) :
    ∃ slot, (fields.map Field.slot).find? (·.name = e.name) = some slot ∧
      slot.check x.2 = .ok () := by
  cases found : (fields.map Field.slot).find? (·.name = e.name) with
  | none =>
    obtain ⟨f, among, named⟩ := List.mem_map.mp known
    have other := List.find?_eq_none.mp found f.slot (List.mem_map_of_mem among)
    exact absurd (decide_eq_true named) other
  | some slot =>
    obtain ⟨f, among, rfl⟩ := List.mem_map.mp (List.mem_of_find?_eq_some found)
    have named : f.name = e.name := of_decide_eq_true <|
      List.find?_some (p := fun s : Slot => decide (s.name = e.name)) found
    exact ⟨f.slot, rfl, Member.check_slot (suits.reads f among named)⟩

theorem exists_binds (suits : List.Forall₂ (Entry.Suits fields) entries xs)
    (distinct : ((entries.map Entry.name).filter (· ∈ fields.map Field.name)).Nodup) :
    ∃ bound, Binds (fields.map Field.slot) xs bound ∧
      bound.map Prod.fst = (entries.map Entry.name).filter (· ∈ fields.map Field.name) ∧
      ∀ f ∈ fields, ∀ t, (f.name, t) ∈ bound → f.Reads t := by
  induction suits with
  | nil => exact ⟨[], .done, rfl, nofun⟩
  | @cons e x entries xs suits rest ih =>
    obtain ⟨key, t⟩ := x
    rw [List.map_cons] at distinct
    by_cases known : e.name ∈ fields.map Field.name
    · rw [List.filter_cons_of_pos (by simpa using known)] at distinct
      obtain ⟨apart, distinct⟩ := List.nodup_cons.mp distinct
      obtain ⟨bound, binds, names, reads⟩ := ih distinct
      obtain ⟨f, found, passes⟩ := exists_slot suits known
      have fresh : bound.lookup e.name = none := by
        rw [List.lookup_eq_none_iff]
        intro m member
        refine bne_iff_ne.mpr fun same => apart ?_
        rw [← names, same]
        exact List.mem_map_of_mem member
      refine ⟨(e.name, t) :: bound, .slot suits.key found passes fresh binds, ?_, ?_⟩
      · rw [List.map_cons, List.map_cons, List.filter_cons_of_pos (by simpa using known), names]
      · intro g among u member
        rcases List.mem_cons.mp member with same | later
        · obtain ⟨named, rfl⟩ := Prod.mk.inj same
          exact suits.reads g among named
        · exact reads g among u later
    · rw [List.filter_cons_of_neg (by simpa using known)] at distinct
      obtain ⟨bound, binds, names, reads⟩ := ih distinct
      refine ⟨bound, .other suits.key (unknown_slot known) (suits.skips known) binds, ?_, reads⟩
      rw [names, List.map_cons, List.filter_cons_of_neg (by simpa using known)]

end Binding

namespace Rearrangement

variable {fields : List Field} {layout : String → Layout}
  (r : Rearrangement (fields.map Field.name) (fun name => (layout name).Rewrites)
    (fields.flatMap Field.written))

include r

theorem exists_suiting (distinct : (fields.map Field.name).Nodup)
    (tolerant : ∀ f ∈ fields, f.Tolerant (layout f.name)) :
    ∀ e ∈ r.entries, ∃ x, Pair.ReadAs e.toPair x ∧ e.Suits fields x := by
  intro e member
  -- No two fields have one name, so that what one of them reads is read by all of that name.
  have suiting {f : Field} (among : f ∈ fields) (named : f.name = e.name) {t : Tree}
      (value : ReadAs e.value.inner t) (read : f.Reads t) :
      ∃ x, Pair.ReadAs e.toPair x ∧ e.Suits fields x := by
    refine Entry.exists_suiting value (fun g also same => ?_) fun unknown => ?_
    · rwa [Field.eq_of_name distinct also among (same.trans named.symm)]
    · exact absurd (List.mem_map.mpr ⟨f, among, named⟩) unknown
  rcases List.mem_append.mp (r.parts.mem_iff.mp member) with old | added
  · rcases List.mem_append.mp old with kept | omitted
    · obtain ⟨m, written, named, rewrites⟩ := exists_of_forall₂ r.keeps e kept
      obtain ⟨f, among, own, encoded⟩ := Field.exists_of_mem_written written
      rw [← own] at named rewrites
      obtain ⟨t, value, read⟩ := (tolerant f among).present m.2 encoded _ rewrites
      exact suiting among named.symm value read
    · obtain ⟨known, unwritten, null⟩ := r.omits e omitted
      obtain ⟨f, among, named⟩ := List.mem_map.mp known
      have leftOut := Field.leftOut_of_unnamed among (named ▸ unwritten)
      have value : ReadAs e.value.inner .null := by
        rw [null]
        exact ReadAs.written (v := .null) trivial
      exact suiting among named value ((tolerant f among).absent leftOut).2
  · obtain ⟨unknown, formed⟩ := r.adds e added
    obtain ⟨t, value, skips⟩ := formed.readAs
    refine Entry.exists_suiting value (fun f among same => ?_) fun _ => skips
    exact absurd (List.mem_map.mpr ⟨f, among, same⟩) unknown

theorem names_kept : r.kept.map Entry.name = (fields.flatMap Field.written).map Prod.fst := by
  have same := List.forall₂_map_left_iff.mpr <| List.forall₂_map_right_iff.mpr <|
    r.keeps.imp (S := fun m e => m.1 = e.name) fun _ _ both => both.1.symm
  rw [List.forall₂_eq_eq_eq] at same
  exact same.symm

theorem known_names : ((r.entries.map Entry.name).filter (· ∈ fields.map Field.name)).Perm
    ((fields.flatMap Field.written).map Prod.fst ++ r.omitted.map Entry.name) := by
  refine ((r.parts.map Entry.name).filter _).trans (.of_eq ?_)
  have kept : ∀ name ∈ r.kept.map Entry.name, name ∈ fields.map Field.name := by
    rw [r.names_kept]
    exact fun name => (Field.names_written fields).subset (a := name)
  have omitted : ∀ name ∈ r.omitted.map Entry.name, name ∈ fields.map Field.name := by
    simpa using fun e member => (r.omits e member).1
  have added : ∀ name ∈ r.added.map Entry.name, name ∉ fields.map Field.name := by
    simpa using fun e member => (r.adds e member).1
  rw [List.map_append, List.map_append, List.filter_append, List.filter_append,
    List.filter_eq_self.mpr (by simpa using kept), List.filter_eq_self.mpr (by simpa using omitted),
    List.filter_eq_nil_iff.mpr (by simpa using added), List.append_nil, r.names_kept]

theorem known_distinct (distinct : (fields.map Field.name).Nodup) :
    ((r.entries.map Entry.name).filter (· ∈ fields.map Field.name)).Nodup := by
  rw [r.known_names.nodup_iff, List.nodup_append]
  refine ⟨(Field.names_written fields).nodup distinct, r.once, ?_⟩
  rintro name written other again rfl
  obtain ⟨e, member, rfl⟩ := List.mem_map.mp again
  exact (r.omits e member).2.1 written

end Rearrangement

theorem Tolerates.record {α : Type} (s : Shape α) (fields : List Field)
    {layout : String → Layout} {a : α} (slots : s.slots = fields.map Field.slot)
    (distinct : (s.slots.map Slot.name).Nodup)
    (tolerant : ∀ f ∈ fields, f.Tolerant (layout f.name))
    (builds : ∀ bound, (∀ f ∈ fields, f.member.get bound = .ok f.value) → s.build bound = .ok a) :
    Tolerates (.record (s.slots.map Slot.name) layout) s.reader
      (.object (fields.flatMap Field.written)) a := by
  have slotNames : s.slots.map Slot.name = fields.map Field.name := by
    rw [slots, List.map_map]
    rfl
  rw [slotNames] at distinct ⊢
  rintro cs ⟨space, r, rfl⟩
  obtain ⟨xs, both⟩ := exists_forall₂ (r.exists_suiting distinct tolerant)
  have reads : List.Forall₂ Pair.ReadAs (r.entries.map Entry.toPair) xs :=
    List.forall₂_map_left_iff.mpr (both.imp fun _ _ each => each.1)
  obtain ⟨bound, binds, names, bindsTo⟩ := exists_binds (both.imp fun _ _ each => each.2)
    (r.known_distinct distinct)
  refine ⟨.object xs .closed, ReadAs.object space reads, ?_⟩
  rw [← slots] at binds
  rw [object_reader s binds]
  refine builds _ fun f among => ?_
  cases found : bound.lookup f.name with
  | some t =>
    obtain ⟨before, behind, rfl, -⟩ := List.lookup_eq_some_iff.mp found
    exact Member.get_of_some found (bindsTo f among t (by simp))
  | none =>
    refine Member.get_of_none found ((tolerant f among).absent ?_).1
    refine Field.leftOut_of_unnamed among fun written => ?_
    have entered : f.name ∈ bound.map Prod.fst := by
      rw [names, r.known_names.mem_iff]
      exact List.mem_append_left _ written
    obtain ⟨m, member, named⟩ := List.mem_map.mp entered
    exact bne_iff_ne.mp (List.lookup_eq_none_iff.mp found m member) named.symm

namespace Field

variable {γ : Type}

theorem Tolerant.given {layout : Layout} {f : Member γ} {b : γ} {v : Value}
    (tolerates : Tolerates layout f.reader v b) : Tolerant layout ⟨f, b, some v⟩ where
  present w same := by
    cases same
    exact tolerates
  absent := nofun

theorem Tolerant.optional {name : String} {r : Reader γ} {f : γ → Value}
    (reads : ∀ b, Json.Reads r (f b) b) (present : ∀ b, f b ≠ .null) (o : Option γ) :
    Tolerant .plain ⟨Member.optional name r, o, o.map f⟩ where
  present w same := by
    cases o with
    | none => cases same
    | some b =>
      cases same
      exact Tolerates.plain ⟨(reads b).whole, optional_tree (present b) (reads b).tree⟩
  absent none := by
    cases o with
    | none => exact ⟨rfl, rfl⟩
    | some b => cases none

theorem written_given (f : Member γ) (b : γ) (v : Value) :
    written ⟨f, b, some v⟩ = [(f.name, v)] := rfl

theorem written_optional (m : Member (Option γ)) (f : γ → Value) (o : Option γ) :
    written ⟨m, o, o.map f⟩ = Value.optional m.name f o := by
  cases o <;> rfl

end Field

theorem Tolerates.read {α : Type} {layout : Layout} {r : Reader α} {v : Value} {a : α}
    (tolerates : Tolerates layout r v a) {p : Padded} (rewritten : layout.Rewrites v p.inner) :
    Json.read r (.ofString (String.ofList p.chars)) = .ok a := by
  obtain ⟨t, reads, read⟩ := tolerates p.inner rewritten
  have anywhere : Spot.TakesValue .value := trivial
  have ends : Source.EndsNumber [] := trivial
  have run := reads.padded anywhere [] ends
  rw [List.append_nil, Token.scan, supply, Progress.run] at run
  rw [Source.ofString, String.toList_ofList, Json.read, Tree.ofTokens, run]
  simp [read]

end TestImpact.Json
