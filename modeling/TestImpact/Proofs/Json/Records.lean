import TestImpact.Json.Shape
import TestImpact.Proofs.Json.Trees

namespace TestImpact.Json

variable {α β : Type}

theorem text_tree (s : String) : Reader.text (Value.text s).tree = .ok s :=
  text_ofString s

theorem natural_tree (n : UInt64) : Reader.natural (Value.natural n).tree = .ok n := by
  have positive : 0 ≤ (n.toNat : Int) := by omega
  simp [Value.natural, Value.tree, Reader.natural, positive]

theorem optional_tree {r : Reader α} {v : Value} {a : α} (present : v ≠ .null)
    (read : r v.tree = .ok a) : Reader.optional r v.tree = .ok (some a) := by
  cases v with
  | null => exact absurd rfl present
  | number n => cases n <;> simp_all [Value.tree, Reader.optional, Except.map]
  | bool | text | list | object => simp_all [Value.tree, Reader.optional, Except.map]

theorem trees_map (f : α → Value) (as : List α) :
    trees (as.map f) = as.map fun a => (f a).tree := by
  induction as with
  | nil => rfl
  | cons a as ih => rw [List.map_cons, trees, ih, List.map_cons]

theorem list_tree {r : Reader α} {f : α → Value} (as : List α)
    (read : ∀ a ∈ as, r (f a).tree = .ok a) :
    Reader.list r (Value.list (as.map f)).tree = .ok as := by
  have each : (as.map fun a => (f a).tree).mapM r = .ok as := by
    induction as with
    | nil => rfl
    | cons a as ih =>
      have rest := ih fun b member => read b (List.mem_cons_of_mem _ member)
      simp [List.mapM_cons, read a List.mem_cons_self, rest]
  simp [Value.tree, trees_map, Reader.list, each, ListStop.check]

theorem alternative_tree {choices : List (String × Alternative α)} {name : String} {a : α}
    (known : choices.lookup name = some (.bare a)) :
    Alternative.reader choices (Value.text name).tree = .ok a := by
  simp [Value.tree, Alternative.reader, Alternative.named, known]

/-- What the members of an object bind: those with a slot are for it to check, no name twice, and
    the others are read past. -/
inductive Binds (slots : List Slot) : List (TextToken × Tree) → List (String × Tree) → Prop
  | done : Binds slots [] []
  | slot {key : TextToken} {t : Tree} {name : String} {slot : Slot}
      {members : List (TextToken × Tree)} {bound : List (String × Tree)}
      (named : key.text = .ok name) (found : slots.find? (·.name = name) = some slot)
      (passes : slot.check t = .ok ()) (fresh : bound.lookup name = none)
      (rest : Binds slots members bound) :
      Binds slots ((key, t) :: members) ((name, t) :: bound)
  | other {key : TextToken} {t : Tree} {name : String} {members : List (TextToken × Tree)}
      {bound : List (String × Tree)} (named : key.text = .ok name)
      (unknown : slots.find? (·.name = name) = none) (skips : t.skip = .ok ())
      (rest : Binds slots members bound) : Binds slots ((key, t) :: members) bound

section Binds

variable {slots : List Slot} {members : List (TextToken × Tree)} {bound : List (String × Tree)}

theorem boundMembers_of_binds (binds : Binds slots members bound) {before : List (String × Tree)}
    (apart : ∀ m ∈ bound, before.lookup m.1 = none) :
    boundMembers slots before members = .ok (before ++ bound) := by
  induction binds generalizing before with
  | done => simp [boundMembers]
  | @slot key t name slot members bound named found passes fresh rest ih =>
    have unbound : before.lookup name = none := apart (name, t) List.mem_cons_self
    have still : ∀ m ∈ bound, (before ++ [(name, t)]).lookup m.1 = none := by
      intro m member
      have other : m.1 ≠ name := by
        rintro rfl
        simpa using List.lookup_eq_none_iff.mp fresh m member
      rw [List.lookup_append, apart m (List.mem_cons_of_mem _ member)]
      simp [other]
    simp [boundMembers, named, found, unbound, passes, ih still]
  | other named unknown skips rest ih =>
    simp [boundMembers, named, unknown, skips, ih apart]

theorem object_reader (s : Shape α) (binds : Binds s.slots members bound) :
    s.reader (.object members .closed) = s.build fun name => bound.lookup name := by
  have bind : boundMembers s.slots [] members = .ok bound :=
    boundMembers_of_binds binds fun _ _ => rfl
  simp [Shape.reader, bind, ObjectStop.check]

theorem binds_memberTrees {ms : List (String × Value)} (distinct : (ms.map Prod.fst).Nodup)
    (passes : ∀ m ∈ ms, ∃ slot, slots.find? (·.name = m.1) = some slot ∧
      slot.check m.2.tree = .ok ()) :
    Binds slots (memberTrees ms) (ms.map fun m => (m.1, m.2.tree)) := by
  induction ms with
  | nil => exact .done
  | cons m ms ih =>
    obtain ⟨name, v⟩ := m
    obtain ⟨apart, distinct⟩ := List.nodup_cons.mp distinct
    obtain ⟨slot, found, check⟩ := passes (name, v) List.mem_cons_self
    have rest := ih distinct fun m member => passes m (List.mem_cons_of_mem _ member)
    have fresh : (ms.map fun m => (m.1, m.2.tree)).lookup name = none := by
      simp only [List.lookup_eq_none_iff, List.mem_map, forall_exists_index, and_imp,
        forall_apply_eq_imp_iff₂, bne_iff_ne]
      rintro m member rfl
      have named : m.1 ∈ ms.map Prod.fst := List.mem_map_of_mem member
      exact apart named
    exact .slot (text_ofString name) found check fresh rest

theorem lookup_tree (ms : List (String × Value)) (name : String) :
    (ms.map fun m => (m.1, m.2.tree)).lookup name = (ms.lookup name).map Value.tree := by
  induction ms with
  | nil => rfl
  | cons m ms ih =>
    obtain ⟨k, v⟩ := m
    rw [List.map_cons, List.lookup_cons, List.lookup_cons, ih]
    cases name == k <;> rfl

theorem object_tree (s : Shape α) {ms : List (String × Value)}
    (distinct : (ms.map Prod.fst).Nodup)
    (passes : ∀ m ∈ ms, ∃ slot, s.slots.find? (·.name = m.1) = some slot ∧
      slot.check m.2.tree = .ok ()) :
    s.reader (Value.object ms).tree = s.build fun name => (ms.lookup name).map Value.tree := by
  refine (object_reader s (binds_memberTrees distinct passes)).trans ?_
  simp only [lookup_tree]

theorem Member.check_slot {f : Member β} {t : Tree} {b : β} (read : f.reader t = .ok b) :
    f.slot.check t = .ok () := by
  simp only [Member.slot, read, Except.map]

end Binds

end TestImpact.Json
