import Mathlib
import TestImpact.Coverage.Lines
import TestImpact.Proofs.Text.Pieces

namespace TestImpact.Coverage

section Ascending

variable {lines others : List UInt32} {n : UInt32}

theorem eraseReps_cons_cons (n m : UInt32) (lines : List UInt32) :
    (n :: m :: lines).eraseReps =
      if n = m then (n :: lines).eraseReps else n :: (m :: lines).eraseReps := by
  -- The loop carries what it has passed in reverse.
  have passed (lines : List UInt32) : ∀ n before,
      List.eraseRepsBy.loop (· == ·) n lines before =
        before.reverse ++ List.eraseRepsBy.loop (· == ·) n lines [] := by
    induction lines with
    | nil => simp [List.eraseRepsBy.loop]
    | cons m lines ih =>
      intro n before
      cases same : n == m <;> simp only [List.eraseRepsBy.loop, same]
      · rw [ih m (n :: before), ih m [n]]
        simp
      · exact ih n before
  by_cases same : n = m
  · simp [List.eraseReps, List.eraseRepsBy, List.eraseRepsBy.loop, same]
  · have other : (n == m) = false := by simpa using same
    simp only [List.eraseReps, List.eraseRepsBy, List.eraseRepsBy.loop, other, same, if_false]
    rw [passed]
    rfl

theorem mem_eraseReps_cons_iff {m : UInt32} :
    n ∈ (m :: lines).eraseReps ↔ n ∈ m :: lines := by
  induction lines generalizing m with
  | nil => rfl
  | cons k lines ih =>
    rw [eraseReps_cons_cons]
    split
    · rename_i same
      rw [ih, same]
      simp
    · rw [List.mem_cons, ih, ← List.mem_cons]

theorem mem_ascending_iff : n ∈ ascending lines ↔ n ∈ lines := by
  have sorted : n ∈ lines.mergeSort (· ≤ ·) ↔ n ∈ lines := List.mem_mergeSort
  rw [← sorted, ascending]
  cases lines.mergeSort (· ≤ ·) with
  | nil => rfl
  | cons m lines => exact mem_eraseReps_cons_iff

theorem strict_eraseReps (sorted : lines.Pairwise (· ≤ ·)) :
    lines.eraseReps.Pairwise (· < ·) := by
  cases lines with
  | nil => exact .nil
  | cons m lines =>
    induction lines generalizing m with
    | nil => exact List.pairwise_singleton ..
    | cons k lines ih =>
      obtain ⟨first, rest⟩ := List.pairwise_cons.mp sorted
      rw [eraseReps_cons_cons]
      split
      · exact ih m (sorted.sublist (.cons_cons _ (List.sublist_cons_self ..)))
      · rename_i other
        refine List.pairwise_cons.mpr ⟨fun n member => ?_, ih k rest⟩
        have step : m < k := UInt32.lt_of_le_of_ne (first k List.mem_cons_self) other
        rcases List.mem_cons.mp (mem_eraseReps_cons_iff.mp member) with rfl | later
        · exact step
        · exact UInt32.lt_of_lt_of_le step ((List.pairwise_cons.mp rest).1 n later)

theorem strict_ascending (lines : List UInt32) : (ascending lines).Pairwise (· < ·) := by
  have sorted : (lines.mergeSort (· ≤ ·)).Pairwise fun n m => decide (n ≤ m) = true :=
    List.pairwise_mergeSort (fun n m k => by simpa using UInt32.le_trans)
      (fun n m => by simpa using UInt32.le_total n m) lines
  exact strict_eraseReps (by simpa using sorted)

theorem ascending_eq_iff : ascending others = ascending lines ↔ ∀ n, n ∈ others ↔ n ∈ lines := by
  constructor
  · intro same n
    rw [← mem_ascending_iff, same, mem_ascending_iff]
  · intro same
    have irrefl : Std.Irrefl fun n m : UInt32 => n < m := ⟨UInt32.lt_irrefl⟩
    have antisymm : Std.Antisymm fun n m : UInt32 => n < m :=
      ⟨fun n m less more => absurd (UInt32.lt_trans less more) (UInt32.lt_irrefl n)⟩
    refine (strict_ascending others).eq_of_mem_iff (strict_ascending lines) fun n => ?_
    rw [mem_ascending_iff, mem_ascending_iff]
    exact same n

end Ascending

theorem next?_eq_some_iff {n m : UInt32} : next? n = some m ↔ n.toNat + 1 = m.toNat := by
  have small : m.toNat < UInt32.size := m.toNat_lt_size
  have size : UInt32.size = 2 ^ 32 := rfl
  unfold next?
  split
  · rename_i fits
    have sum : (n + 1).toNat = n.toNat + 1 := by
      rw [UInt32.toNat_add]
      exact Nat.mod_eq_of_lt (by rwa [size] at fits)
    rw [Option.some.injEq, ← UInt32.toNat_inj, sum]
  · simp
    omega

namespace LineRange

def Holds (r : LineRange) (n : UInt32) : Prop := r.first ≤ n ∧ n ≤ r.last

/-- Between the two ranges stands a line that is in neither. -/
def Before (r s : LineRange) : Prop := r.last.toNat + 1 < s.first.toNat

def Held (rs : List LineRange) (n : UInt32) : Prop := ∃ r ∈ rs, r.Holds n

variable {rs others : List LineRange} {r s : LineRange} {n m : UInt32}

theorem first_held (member : r ∈ rs) : Held rs r.first :=
  ⟨r, member, UInt32.le_refl _, r.first_le_last⟩

theorem held_cons_iff : Held (r :: rs) n ↔ r.Holds n ∨ Held rs n := List.exists_mem_cons_iff ..

theorem holds_single_iff : (single n).Holds m ↔ m = n := by
  constructor
  · rintro ⟨low, high⟩
    exact UInt32.le_antisymm high low
  · rintro rfl
    exact ⟨UInt32.le_refl _, UInt32.le_refl _⟩

theorem held_prepend_iff (ahead : ∀ s ∈ rs, n < s.first) :
    Held (prepend n rs) m ↔ m = n ∨ Held rs m := by
  unfold prepend
  split
  · rw [held_cons_iff, holds_single_iff]
  · rename_i s rs
    split
    · rename_i joins
      have step := next?_eq_some_iff.mp joins
      rw [held_cons_iff, held_cons_iff, ← or_assoc]
      refine or_congr_left ?_
      simp only [Holds, UInt32.le_iff_toNat_le, ← UInt32.toNat_inj]
      have := s.first_le_last
      rw [UInt32.le_iff_toNat_le] at this
      omega
    · rw [held_cons_iff, holds_single_iff]

theorem before_prepend (ahead : ∀ s ∈ rs, n < s.first) (apart : rs.Pairwise Before) :
    (prepend n rs).Pairwise Before := by
  unfold prepend
  split
  · exact List.pairwise_singleton ..
  · rename_i s rs
    obtain ⟨first, rest⟩ := List.pairwise_cons.mp apart
    split
    · exact List.pairwise_cons.mpr ⟨first, rest⟩
    · rename_i gap
      have step : (single n).Before s := by
        have less := UInt32.lt_iff_toNat_lt.mp (ahead s List.mem_cons_self)
        have other := mt next?_eq_some_iff.mpr gap
        show n.toNat + 1 < s.first.toNat
        omega
      refine List.pairwise_cons.mpr ⟨fun t member => ?_, apart⟩
      rcases List.mem_cons.mp member with rfl | later
      · exact step
      · have order := UInt32.le_iff_toNat_le.mp s.first_le_last
        have far := first t later
        unfold Before at step far ⊢
        omega

theorem ofAscending_spec {lines : List UInt32} (strict : lines.Pairwise (· < ·)) :
    (ofAscending lines).Pairwise Before ∧ ∀ n, Held (ofAscending lines) n ↔ n ∈ lines := by
  induction lines with
  | nil => exact ⟨.nil, by simp [ofAscending, Held]⟩
  | cons n lines ih =>
    obtain ⟨first, rest⟩ := List.pairwise_cons.mp strict
    obtain ⟨apart, held⟩ := ih rest
    have ahead : ∀ s ∈ ofAscending lines, n < s.first := fun s member =>
      first _ ((held _).mp (first_held member))
    refine ⟨before_prepend ahead apart, fun m => ?_⟩
    rw [List.mem_cons, ← held]
    exact held_prepend_iff ahead

/-- The line in front of a range is in none of ranges that are apart, so the range has to begin
    where it does. -/
theorem exists_first_of_held_iff (apart : rs.Pairwise Before)
    (same : ∀ n, Held others n ↔ Held rs n) (member : r ∈ rs) :
    ∃ s ∈ others, s.first = r.first := by
  obtain ⟨s, inside, low, high⟩ := (same _).mpr (first_held member)
  refine ⟨s, inside, Decidable.byContradiction fun other => ?_⟩
  have less := UInt32.lt_iff_toNat_lt.mp (UInt32.lt_of_le_of_ne low other)
  have below : (UInt32.ofNat (r.first.toNat - 1)).toNat = r.first.toNat - 1 := by
    have := r.first.toNat_lt
    rw [UInt32.toNat_ofNat']
    exact Nat.mod_eq_of_lt (by omega)
  have reach : s.Holds (UInt32.ofNat (r.first.toNat - 1)) := by
    simp only [Holds, UInt32.le_iff_toNat_le, below] at high ⊢
    omega
  obtain ⟨d, known, holds⟩ := (same _).mp ⟨s, inside, reach⟩
  simp only [Holds, UInt32.le_iff_toNat_le, below] at holds
  have order := UInt32.le_iff_toNat_le.mp r.first_le_last
  have symm : Std.Symm fun r s : LineRange => r.Before s ∨ s.Before r := ⟨fun _ _ => Or.symm⟩
  have ways : rs.Pairwise fun r s => r.Before s ∨ s.Before r := apart.imp .inl
  by_cases equal : r = d
  · subst equal
    omega
  · rcases ways.forall member known equal with before | before <;> unfold Before at before <;> omega

theorem length_le_of_held_iff (apart : rs.Pairwise Before)
    (same : ∀ n, Held others n ↔ Held rs n) : rs.length ≤ others.length := by
  have distinct : (rs.map first).Nodup := by
    refine List.pairwise_map.mpr (apart.imp fun {r s} before => ?_)
    intro equal
    have order := UInt32.le_iff_toNat_le.mp r.first_le_last
    unfold Before at before
    rw [equal] at order
    omega
  have within : rs.map first ⊆ others.map first := by
    intro n member
    obtain ⟨r, inside, rfl⟩ := List.mem_map.mp member
    obtain ⟨s, found, equal⟩ := exists_first_of_held_iff apart same inside
    exact List.mem_map.mpr ⟨s, found, equal⟩
  simpa using (List.subperm_of_subset distinct within).length_le

/-- Puts a range in front of ranges. It takes in the first one if that begins with the next line. -/
def join (r : LineRange) : List LineRange → List LineRange
  | [] => [r]
  | s :: rs =>
    if h : next? r.last = some s.first then
      ⟨r.first, s.last, UInt32.le_trans r.first_le_last
        (UInt32.le_trans (le_of_next? h) s.first_le_last)⟩ :: rs
    else r :: s :: rs

/-- Goes over the lines behind a range that is open. It asks of each whether it is one more than the
    last of the range, and fails where that sum does not fit. -/
def sweep? (r : LineRange) : List UInt32 → Option (List LineRange)
  | [] => some [r]
  | n :: lines =>
    match h : next? r.last with
    | none => none
    | some next =>
      if same : n = next then
        sweep? ⟨r.first, n, UInt32.le_trans r.first_le_last (le_of_next? (same ▸ h))⟩ lines
      else (sweep? (single n) lines).map (r :: ·)

theorem prepend_eq_join (n : UInt32) (rs : List LineRange) : prepend n rs = (single n).join rs := by
  cases rs <;> rfl

theorem join_prepend {r : LineRange} {n : UInt32} (next : next? r.last = some n)
    (rs : List LineRange) :
    r.join (prepend n rs) =
      (⟨r.first, n, UInt32.le_trans r.first_le_last (le_of_next? next)⟩ : LineRange).join rs := by
  cases rs with
  | nil => simp [prepend, join, single, next]
  | cons s rs =>
    by_cases joins : next? n = some s.first <;> simp [prepend, join, single, next, joins]

theorem join_prepend_of_ne {r : LineRange} {n : UInt32} (gap : next? r.last ≠ some n)
    (rs : List LineRange) : r.join (prepend n rs) = r :: prepend n rs := by
  cases rs with
  | nil => simp [prepend, join, single, gap]
  | cons s rs =>
    by_cases joins : next? n = some s.first <;> simp [prepend, join, single, gap, joins]

/-- No sum is too large, since a greater line follows. -/
theorem sweep?_eq_join {r : LineRange} {lines : List UInt32}
    (strict : (r.last :: lines).Pairwise (· < ·)) :
    sweep? r lines = some (r.join (ofAscending lines)) := by
  induction lines generalizing r with
  | nil => rfl
  | cons n lines ih =>
    obtain ⟨first, rest⟩ := List.pairwise_cons.mp strict
    have split : ofAscending (n :: lines) = prepend n (ofAscending lines) := rfl
    rw [split, sweep?]
    split
    · rename_i full
      have less := UInt32.lt_iff_toNat_lt.mp (first n List.mem_cons_self)
      have small := n.toNat_lt_size
      simp [next?] at full
      omega
    · rename_i next found
      split
      · rename_i same
        subst same
        rw [join_prepend found]
        exact ih rest
      · rename_i other
        have gap : next? r.last ≠ some n := by
          rw [found]
          simpa using Ne.symm other
        rw [join_prepend_of_ne gap, prepend_eq_join, ih rest]
        rfl

end LineRange

def sweep? : List UInt32 → Option (List LineRange)
  | [] => some []
  | n :: lines => (LineRange.single n).sweep? lines

theorem sweep?_ascending (lines : List UInt32) :
    sweep? (ascending lines) = some (ranges lines) := by
  have strict := strict_ascending lines
  unfold ranges
  cases sorted : ascending lines with
  | nil => rfl
  | cons n more =>
    rw [sorted] at strict
    rw [sweep?, LineRange.sweep?_eq_join strict, ← LineRange.prepend_eq_join]
    rfl

section Reading

def readLine (digits : List Char) : Option UInt32 :=
  if digits ≠ [] ∧ digits.all Char.isDigit ∧ Nat.ofDigitChars 10 digits 0 < UInt32.size then
    some (UInt32.ofNat (Nat.ofDigitChars 10 digits 0))
  else none

/-- Reads a lone number, or two with a hyphen between them of which the second is greater. -/
def LineRange.read (item : List Char) : Option LineRange :=
  match item.splitOn '-' with
  | [only] => (readLine only).map LineRange.single
  | [first, last] => do
    let first ← readLine first
    let last ← readLine last
    if less : first < last then some ⟨first, last, UInt32.le_of_lt less⟩ else none
  | _ => none

def readRanges (text : String) : Option (List LineRange) :=
  if text = "" then some [] else (text.toList.splitOn ',').mapM LineRange.read

variable {n : UInt32} {c : Char}

theorem toList_line (n : UInt32) : (toString n).toList = Nat.toDigits 10 n.toNat := Nat.toList_repr

theorem isDigit_of_mem_line (member : c ∈ (toString n).toList) : c.isDigit = true := by
  rw [toList_line] at member
  exact Nat.isDigit_of_mem_toDigits (by decide) (by decide) member

theorem readLine_line (n : UInt32) : readLine (toString n).toList = some n := by
  have digits : ((toString n).toList).all Char.isDigit = true :=
    List.all_eq_true.mpr fun c member => isDigit_of_mem_line member
  have value : Nat.ofDigitChars 10 (toString n).toList 0 = n.toNat := by
    rw [toList_line, Nat.ofDigitChars_ten_toDigits]
  have given : (toString n).toList ≠ [] := by
    rw [toList_line]
    exact Nat.toDigits_ne_nil
  rw [readLine, if_pos ⟨given, digits, value ▸ n.toNat_lt_size⟩, value, UInt32.ofNat_toNat]

theorem digit_or_hyphen_of_mem_text {r : LineRange} (member : c ∈ r.text.toList) :
    c.isDigit = true ∨ c = '-' := by
  unfold LineRange.text at member
  split at member
  · exact .inl (isDigit_of_mem_line member)
  · simp only [String.toList_append, List.mem_append] at member
    rcases member with (front | hyphen) | back
    · exact .inl (isDigit_of_mem_line front)
    · exact .inr (by simpa using hyphen)
    · exact .inl (isDigit_of_mem_line back)

theorem LineRange.read_text (r : LineRange) : read r.text.toList = some r := by
  have whole (n : UInt32) : '-' ∉ (toString n).toList := fun member =>
    absurd (isDigit_of_mem_line member) (by decide)
  unfold text
  split
  · rename_i lone
    rw [read, List.splitOn_eq_singleton (whole _)]
    obtain ⟨first, last, order⟩ := r
    cases lone
    simp [readLine_line, single]
  · rename_i other
    have less : r.first < r.last := UInt32.lt_of_le_of_ne r.first_le_last other
    have split : (toString r.first ++ "-" ++ toString r.last).toList =
        (toString r.first).toList ++ '-' :: (toString r.last).toList := by simp
    rw [read, split, List.splitOn_append_cons_self_of_not_mem (whole _),
      List.splitOn_eq_singleton (whole _)]
    simp [readLine_line, less]

theorem LineRange.mapM_read (rs : List LineRange) :
    (rs.map fun r => r.text.toList).mapM read = some rs := by
  induction rs with
  | nil => rfl
  | cons r rs ih => simp [List.mapM_cons, read_text, ih]

theorem toList_linesText (lines : List UInt32) :
    (linesText lines).toList = [','].intercalate ((ranges lines).map fun r => r.text.toList) := by
  rw [linesText, String.toList_intercalate, List.map_map]
  rfl

theorem mark_of_mem_linesText {lines : List UInt32} (member : c ∈ (linesText lines).toList) :
    c.isDigit = true ∨ c = '-' ∨ c = ',' := by
  rw [toList_linesText] at member
  rcases Text.of_mem_intercalate member with comma | ⟨item, within, inside⟩
  · exact .inr (.inr comma)
  · obtain ⟨r, -, rfl⟩ := List.mem_map.mp within
    exact (digit_or_hyphen_of_mem_text inside).imp_right .inl

theorem readRanges_linesText (lines : List UInt32) :
    readRanges (linesText lines) = some (ranges lines) := by
  have whole : ∀ item ∈ (ranges lines).map fun r => r.text.toList, ',' ∉ item := by
    intro item member comma
    obtain ⟨r, -, rfl⟩ := List.mem_map.mp member
    rcases digit_or_hyphen_of_mem_text comma with digit | hyphen
    · cases digit
    · cases hyphen
  have items := toList_linesText lines
  cases found : ranges lines with
  | nil =>
    have empty : linesText lines = "" := by simpa [found] using items
    simp [readRanges, empty]
  | cons r rs =>
    have given : (ranges lines).map (fun r => r.text.toList) ≠ [] := by simp [found]
    have parts : (linesText lines).toList.splitOn ',' = (r :: rs).map fun r => r.text.toList := by
      rw [items, List.splitOn_intercalate ',' whole given, found]
    have nonempty : linesText lines ≠ "" := by
      intro empty
      have read := congrArg (List.mapM LineRange.read) parts
      rw [LineRange.mapM_read, empty] at read
      cases read
    rw [readRanges, if_neg nonempty, parts, LineRange.mapM_read]

end Reading

/-- In whatever order lines are given and however often, no sum is too large on the way to their
    text. It is read as ranges of just these lines, in ascending order and with lines left out
    between them, as few as there can be; and no other set of lines has it. -/
theorem linesText_canonical (lines : List UInt32) :
    (∃ rs, sweep? (ascending lines) = some rs ∧
      linesText lines = ",".intercalate (rs.map LineRange.text) ∧
      readRanges (linesText lines) = some rs ∧ rs.Pairwise LineRange.Before ∧
      (∀ n, LineRange.Held rs n ↔ n ∈ lines) ∧
      ∀ others, (∀ n, LineRange.Held others n ↔ n ∈ lines) → rs.length ≤ others.length) ∧
    ∀ others, linesText others = linesText lines ↔ ∀ n, n ∈ others ↔ n ∈ lines := by
  obtain ⟨apart, held⟩ := LineRange.ofAscending_spec (strict_ascending lines)
  simp only [mem_ascending_iff] at held
  constructor
  · refine ⟨ranges lines, sweep?_ascending lines, rfl, readRanges_linesText lines, apart, held, ?_⟩
    intro others same
    exact LineRange.length_le_of_held_iff apart fun n => (same n).trans (held n).symm
  · intro others
    constructor
    · intro same n
      have read := congrArg readRanges same
      rw [readRanges_linesText, readRanges_linesText, Option.some.injEq] at read
      have held' := (LineRange.ofAscending_spec (strict_ascending others)).2 n
      rw [mem_ascending_iff] at held'
      rw [← held', ← held n]
      exact iff_of_eq (congrArg (fun rs => LineRange.Held rs n) read)
    · intro same
      unfold linesText ranges
      rw [ascending_eq_iff.mpr same]

example : linesText [4294967295, 7, 1, 4294967294, 7, 2] = "1-2,7,4294967294-4294967295" := by cbv

end TestImpact.Coverage
