namespace TestImpact.Text

variable {α : Type} {c : α} {front back : List α}

theorem intercalate_cons (first : List α) (rest : List (List α)) :
    [c].intercalate (first :: rest) = first ++ rest.flatMap (c :: ·) := by
  induction rest generalizing first with
  | nil => simp
  | cons next rest ih =>
    rw [List.intercalate_cons_cons, ih, List.flatMap_cons]
    simp

theorem of_mem_intercalate {x : α} {pieces : List (List α)} (member : x ∈ [c].intercalate pieces) :
    x = c ∨ ∃ piece ∈ pieces, x ∈ piece := by
  cases pieces with
  | nil => cases member
  | cons first rest =>
    rw [intercalate_cons, List.mem_append, List.mem_flatMap] at member
    rcases member with here | ⟨piece, within, inside⟩
    · exact .inr ⟨first, List.mem_cons_self, here⟩
    · exact (List.mem_cons.mp inside).imp_right fun inside =>
        ⟨piece, List.mem_cons_of_mem _ within, inside⟩

theorem exists_last_of_mem {xs : List α} (member : c ∈ xs) :
    ∃ front back, xs = front ++ c :: back ∧ c ∉ back := by
  obtain ⟨back, front, split, first⟩ := List.eq_append_cons_of_mem (List.mem_reverse.mpr member)
  refine ⟨front.reverse, back.reverse, ?_, by simpa using first⟩
  rw [← List.reverse_reverse xs, split]
  simp

theorem reverse_append_cons (front back : List α) :
    (front ++ c :: back).reverse = back.reverse ++ c :: front.reverse := by
  simp

theorem of_mem_splitOnP {p : α → Bool} {xs piece : List α} (member : piece ∈ xs.splitOnP p) :
    ∀ x ∈ piece, p x = false ∧ x ∈ xs := by
  induction xs generalizing piece with
  | nil =>
    rw [List.splitOnP_nil, List.mem_singleton] at member
    simp [member]
  | cons y ys ih =>
    have later (given : piece ∈ ys.splitOnP p) : ∀ x ∈ piece, p x = false ∧ x ∈ y :: ys :=
      fun x within => (ih given x within).imp_right (List.mem_cons_of_mem y)
    rw [List.splitOnP_cons_eq_if_modifyHead] at member
    split at member
    · rcases List.mem_cons.mp member with rfl | rest
      · nofun
      · exact later rest
    · rename_i other
      cases pieces : ys.splitOnP p with
      | nil => exact absurd pieces (List.splitOnP_ne_nil p ys)
      | cons first rest =>
        rw [pieces] at member ih later
        rw [List.modifyHead_cons] at member
        rcases List.mem_cons.mp member with rfl | tail
        · refine List.forall_mem_cons.mpr ⟨⟨by simpa using other, List.mem_cons_self⟩, ?_⟩
          exact fun x within => (ih List.mem_cons_self x within).imp_right (List.mem_cons_of_mem y)
        · exact later (List.mem_cons_of_mem _ tail)

theorem takeWhile_append_of_head {p : α → Bool} (all : ∀ x ∈ front, p x = true)
    (stop : ∀ x ∈ back.head?, p x = false) : (front ++ back).takeWhile p = front := by
  rw [List.takeWhile_append_of_pos all]
  cases back with
  | nil => simp
  | cons x back => simp [stop x rfl]

theorem dropWhile_append_of_head {p : α → Bool} (all : ∀ x ∈ front, p x = true)
    (stop : ∀ x ∈ back.head?, p x = false) : (front ++ back).dropWhile p = back := by
  rw [List.dropWhile_append_of_pos all]
  cases back with
  | nil => rfl
  | cons x back => simp [stop x rfl]

variable [DecidableEq α]

theorem not_mem_of_mem_splitOn {xs piece : List α} (member : piece ∈ xs.splitOn c) :
    c ∉ piece := by
  rw [List.splitOn_eq_splitOnP] at member
  exact fun within => by simpa using (of_mem_splitOnP member c within).1

theorem mem_of_mem_splitOn {x : α} {xs piece : List α} (member : piece ∈ xs.splitOn c)
    (within : x ∈ piece) : x ∈ xs := by
  rw [List.splitOn_eq_splitOnP] at member
  exact (of_mem_splitOnP member x within).2

theorem splitOn_append_flatMap (front : List α) {pieces : List (List α)}
    (whole : ∀ piece ∈ pieces, c ∉ piece) :
    (front ++ pieces.flatMap (c :: ·)).splitOn c = front.splitOn c ++ pieces := by
  induction pieces generalizing front with
  | nil => simp
  | cons piece pieces ih =>
    have split : front ++ (piece :: pieces).flatMap (c :: ·) =
        (front ++ c :: piece) ++ pieces.flatMap (c :: ·) := by simp
    rw [split, ih _ fun other member => whole other (List.mem_cons_of_mem _ member),
      List.splitOn_append_cons_self, List.splitOn_eq_singleton (whole piece List.mem_cons_self)]
    simp

theorem passes_of_not_mem (absent : c ∉ front) : ∀ d ∈ front, decide (d ≠ c) = true :=
  fun _ member => decide_eq_true fun same => absent (same ▸ member)

theorem takeWhile_append_cons (first : c ∉ front) (back : List α) :
    (front ++ c :: back).takeWhile (· ≠ c) = front :=
  takeWhile_append_of_head (passes_of_not_mem first) (by simp)

theorem dropWhile_append_cons (first : c ∉ front) (back : List α) :
    (front ++ c :: back).dropWhile (· ≠ c) = c :: back :=
  dropWhile_append_of_head (passes_of_not_mem first) (by simp)

theorem behind_last (front : List α) (last : c ∉ back) :
    ((front ++ c :: back).reverse.takeWhile (· ≠ c)).reverse = back := by
  rw [reverse_append_cons, takeWhile_append_cons (mt List.mem_reverse.mp last),
    List.reverse_reverse]

theorem before_last (front : List α) (last : c ∉ back) :
    ((front ++ c :: back).reverse.dropWhile (· ≠ c)).reverse = front ++ [c] := by
  rw [reverse_append_cons, dropWhile_append_cons (mt List.mem_reverse.mp last), List.reverse_cons,
    List.reverse_reverse]

end TestImpact.Text
