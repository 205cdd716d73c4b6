namespace TestImpact.Coverage

def next? (n : UInt32) : Option UInt32 := if n.toNat + 1 < UInt32.size then some (n + 1) else none

structure LineRange where
  first : UInt32
  last : UInt32
  first_le_last : first ≤ last := by simp
  deriving DecidableEq, Repr

namespace LineRange

def text (r : LineRange) : String :=
  if r.first = r.last then toString r.first else toString r.first ++ "-" ++ toString r.last

def single (n : UInt32) : LineRange := ⟨n, n, UInt32.le_refl n⟩

theorem le_of_next? {n m : UInt32} (h : next? n = some m) : n ≤ m := by
  unfold next? at h
  split at h
  · rename_i small
    have : m = n + 1 := (Option.some.inj h).symm
    subst this
    rw [UInt32.le_iff_toNat_le, UInt32.toNat_add]
    have : (1 : UInt32).toNat = 1 := rfl
    have : UInt32.size = 2 ^ 32 := rfl
    omega
  · cases h

def prepend (n : UInt32) : List LineRange → List LineRange
  | [] => [single n]
  | r :: rs =>
    if h : next? n = some r.first then
      ⟨n, r.last, UInt32.le_trans (le_of_next? h) r.first_le_last⟩ :: rs
    else single n :: r :: rs

def ofAscending (lines : List UInt32) : List LineRange := lines.foldr prepend []

end LineRange

def ascending (lines : List UInt32) : List UInt32 := (lines.mergeSort (· ≤ ·)).eraseReps

/-- The fewest ranges that hold the given lines and no others, in ascending order. -/
def ranges (lines : List UInt32) : List LineRange := LineRange.ofAscending (ascending lines)

def linesText (lines : List UInt32) : String :=
  ",".intercalate ((ranges lines).map LineRange.text)

end TestImpact.Coverage
