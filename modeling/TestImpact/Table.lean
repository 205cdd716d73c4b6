namespace TestImpact

/-- A finite map kept as a list of entries. Each key stands at most once, so the number of entries
    is the number of keys and listing the entries lists every binding exactly once. -/
structure Table (κ ν : Type) where
  entries : List (κ × ν) := []
  distinct : (entries.map Prod.fst).Nodup := by simp

namespace Table

variable {κ ν : Type} [DecidableEq κ]

def empty : Table κ ν := {}

def keys (t : Table κ ν) : List κ := t.entries.map Prod.fst

def size (t : Table κ ν) : Nat := t.entries.length

def get? (t : Table κ ν) (k : κ) : Option ν := (t.entries.find? (·.1 = k)).map Prod.snd

theorem map_fst_rebind (k : κ) (v : ν) (entries : List (κ × ν)) :
    (entries.map fun e => if e.1 = k then (k, v) else e).map Prod.fst = entries.map Prod.fst := by
  rw [List.map_map]
  apply List.map_congr_left
  intro e _
  by_cases h : e.1 = k <;> simp [h]

/-- A new key goes to the end; a known key keeps its place and gets the new value. -/
def insert (t : Table κ ν) (k : κ) (v : ν) : Table κ ν :=
  if h : k ∈ t.keys then
    { entries := t.entries.map fun e => if e.1 = k then (k, v) else e
      distinct := by rw [map_fst_rebind]; exact t.distinct }
  else
    { entries := t.entries ++ [(k, v)]
      distinct := by
        rw [List.map_append, List.nodup_append]
        refine ⟨t.distinct, by simp, ?_⟩
        intro a ha b hb
        simp only [List.map_cons, List.map_nil, List.mem_singleton] at hb
        subst hb
        exact fun same => h (same ▸ ha) }

def erase (t : Table κ ν) (k : κ) : Table κ ν :=
  { entries := t.entries.filter (·.1 ≠ k)
    distinct := t.distinct.sublist (List.filter_sublist.map _) }

theorem mem_keys_iff {t : Table κ ν} {k : κ} : k ∈ t.keys ↔ ∃ v, t.get? k = some v := by
  simp only [keys, get?, List.mem_map, Option.map_eq_some_iff, List.find?_eq_some_iff_append]
  constructor
  · rintro ⟨e, he, rfl⟩
    cases found : t.entries.find? (·.1 = e.1) with
    | none => simpa using List.find?_eq_none.mp found e he
    | some e' =>
      have := List.find?_eq_some_iff_append.mp found
      exact ⟨e'.2, e', this, rfl⟩
  · rintro ⟨v, e, ⟨same, before, after, split, _⟩, _⟩
    exact ⟨e, by simp [split], by simpa using same⟩

@[simp] theorem get?_empty (k : κ) : (empty : Table κ ν).get? k = none := rfl

theorem get?_eq_none_iff {t : Table κ ν} {k : κ} : t.get? k = none ↔ k ∉ t.keys := by
  rw [mem_keys_iff]
  cases t.get? k <;> simp

theorem find?_rebind (k k' : κ) (v : ν) (entries : List (κ × ν))
    (known : k ∈ entries.map Prod.fst) :
    ((entries.map fun e => if e.1 = k then (k, v) else e).find? (·.1 = k')).map Prod.snd =
      if k' = k then some v else (entries.find? (·.1 = k')).map Prod.snd := by
  induction entries with
  | nil => simp at known
  | cons e rest ih =>
    simp only [List.map_cons, List.find?_cons]
    by_cases here : e.1 = k
    · by_cases asked : k' = k
      · simp only [here, asked, if_true, decide_true, Option.map_some]
      · have other : ¬ k = k' := fun h => asked h.symm
        simp only [here, other, asked, if_true, if_false, decide_false]
        by_cases more : k ∈ rest.map Prod.fst
        · simpa only [asked, if_false] using ih more
        · have fixed : (rest.map fun e => if e.1 = k then (k, v) else e) = rest := by
            conv => rhs; rw [← List.map_id rest]
            apply List.map_congr_left
            intro e' he'
            have : ¬ e'.1 = k := fun h => more (List.mem_map.mpr ⟨e', he', h⟩)
            simp only [this, if_false, id]
          rw [fixed]
    · have more : k ∈ rest.map Prod.fst := by
        rcases List.mem_cons.mp known with h | h
        · exact absurd h.symm here
        · exact h
      simp only [here, if_false]
      by_cases first : e.1 = k'
      · have : ¬ k' = k := fun h => here (first.trans h)
        simp only [first, this, decide_true, if_false, Option.map_some]
      · simp only [first, decide_false]
        exact ih more

theorem get?_insert (t : Table κ ν) (k k' : κ) (v : ν) :
    (t.insert k v).get? k' = if k' = k then some v else t.get? k' := by
  unfold insert get?
  by_cases known : k ∈ t.keys
  · simp only [known, dif_pos]
    exact find?_rebind k k' v t.entries known
  · simp only [known, dif_neg, not_false_eq_true, List.find?_append]
    by_cases asked : k' = k
    · subst asked
      have : t.entries.find? (·.1 = k') = none := by
        cases found : t.entries.find? (·.1 = k') with
        | none => rfl
        | some e => exact absurd (mem_keys_iff.mpr ⟨e.2, by simp [get?, found]⟩) known
      simp [this]
    · have : ¬ k = k' := fun h => asked h.symm
      cases t.entries.find? (·.1 = k') <;> simp [asked, this]

theorem get?_erase (t : Table κ ν) (k k' : κ) :
    (t.erase k).get? k' = if k' = k then none else t.get? k' := by
  unfold erase get?
  rw [List.find?_filter]
  by_cases asked : k' = k
  · subst asked
    rw [if_pos rfl, List.find?_eq_none.mpr]
    · rfl
    · intro e _
      by_cases h : e.1 = k' <;> simp [h]
  · rw [if_neg asked]
    congr 2
    funext e
    by_cases h : e.1 = k' <;> simp [h, asked]

theorem keys_insert_of_mem {t : Table κ ν} {k : κ} (v : ν) (known : k ∈ t.keys) :
    (t.insert k v).keys = t.keys := by
  simp only [insert]
  rw [dif_pos known]
  exact map_fst_rebind k v t.entries

theorem keys_insert_of_not_mem {t : Table κ ν} {k : κ} (v : ν) (fresh : k ∉ t.keys) :
    (t.insert k v).keys = t.keys ++ [k] := by
  simp only [insert]
  rw [dif_neg fresh]
  simp only [keys, List.map_append, List.map_cons, List.map_nil]

theorem keys_erase (t : Table κ ν) (k : κ) : (t.erase k).keys = t.keys.filter (· ≠ k) := by
  simp only [keys, erase, List.filter_map]
  rfl

theorem mem_keys_insert {t : Table κ ν} {k k' : κ} {v : ν} :
    k' ∈ (t.insert k v).keys ↔ k' = k ∨ k' ∈ t.keys := by
  rw [mem_keys_iff, mem_keys_iff, get?_insert]
  by_cases same : k' = k <;> simp [same]

theorem mem_keys_erase {t : Table κ ν} {k k' : κ} :
    k' ∈ (t.erase k).keys ↔ k' ≠ k ∧ k' ∈ t.keys := by
  rw [keys_erase, List.mem_filter, decide_eq_true_eq, and_comm]

omit [DecidableEq κ] in
theorem size_eq_length_keys (t : Table κ ν) : t.size = t.keys.length := (List.length_map _).symm

theorem size_insert_of_mem {t : Table κ ν} {k : κ} (v : ν) (known : k ∈ t.keys) :
    (t.insert k v).size = t.size := by
  rw [size_eq_length_keys, keys_insert_of_mem v known, size_eq_length_keys]

theorem size_insert_of_not_mem {t : Table κ ν} {k : κ} (v : ν) (fresh : k ∉ t.keys) :
    (t.insert k v).size = t.size + 1 := by
  rw [size_eq_length_keys, keys_insert_of_not_mem v fresh, List.length_append, size_eq_length_keys]
  rfl

theorem size_erase_of_mem {t : Table κ ν} {k : κ} (known : k ∈ t.keys) :
    (t.erase k).size + 1 = t.size := by
  -- The keys are distinct, so filtering one out is erasing it once.
  have erased : (t.erase k).keys = t.keys.erase k := by
    have once : t.keys.erase k = t.keys.filter (· != k) := t.distinct.erase_eq_filter k
    rw [keys_erase, once]
    exact List.filter_congr fun other _ => by by_cases same : other = k <;> simp [same]
  have positive : 0 < t.keys.length := List.length_pos_of_mem known
  rw [size_eq_length_keys, erased, List.length_erase_of_mem known, size_eq_length_keys]
  omega

end Table

end TestImpact
