import Mathlib.Algebra.Group.Nat.Defs
import TestImpact.Proofs.Text.Pieces
import TestImpact.Web.Url.Host

namespace TestImpact.Web.Host

section Digits

theorem hexValue_digitChar {d : Nat} (digit : d < 16) :
    Percent.hexValue (Nat.digitChar d) = some d := by
  have all : ∀ m : Fin 16, Percent.hexValue (Nat.digitChar m) = some m.val := by decide
  exact all ⟨d, digit⟩

theorem foldl_digits_lt {α : Type} {radix : Nat} {digit : α → Nat} {ds : List α}
    (small : ∀ d ∈ ds, digit d < radix) (acc : Nat) :
    ds.foldl (fun acc d => acc * radix + digit d) acc < (acc + 1) * radix ^ ds.length := by
  induction ds generalizing acc with
  | nil => simp
  | cons d ds ih =>
    have head := small d List.mem_cons_self
    have tail := ih (fun e member => small e (.tail _ member)) (acc * radix + digit d)
    rw [List.foldl_cons, List.length_cons, Nat.pow_succ']
    calc _ < (acc * radix + digit d + 1) * radix ^ ds.length := tail
      _ ≤ (acc + 1) * radix * radix ^ ds.length := by
          refine Nat.mul_le_mul_right _ ?_
          rw [Nat.add_mul, Nat.one_mul]
          omega
      _ = (acc + 1) * (radix * radix ^ ds.length) := Nat.mul_assoc _ _ _

theorem valueIn_concat (radix : Nat) (cs : List Char) (c : Char) :
    valueIn radix (cs ++ [c]) = valueIn radix cs * radix + (Percent.hexValue c).getD 0 := by
  simp [valueIn]

theorem valueIn_toDigits {radix : Nat} (more : 1 < radix) (small : radix ≤ 16) (n : Nat) :
    valueIn radix (Nat.toDigits radix n) = n := by
  induction n using Nat.strongRecOn with
  | ind n ih =>
    rw [Nat.toDigits_eq_if more]
    split
    · rename_i single
      simp [valueIn, hexValue_digitChar (by omega : n < 16)]
    · have last : n % radix < radix := Nat.mod_lt n (by omega)
      rw [valueIn_concat, ih (n / radix) (Nat.div_lt_self (by omega) more),
        hexValue_digitChar (by omega)]
      exact Nat.div_add_mod' n radix

theorem head_toDigits {radix : Nat} (more : 1 < radix) (small : radix ≤ 16) (n : Nat) :
    Nat.toDigits radix n = ['0'] ∨ ∃ c cs, Nat.toDigits radix n = c :: cs ∧ c ≠ '0' := by
  induction n using Nat.strongRecOn with
  | ind n ih =>
    rw [Nat.toDigits_eq_if more]
    split
    · rename_i single
      rcases Nat.eq_zero_or_pos n with rfl | positive
      · exact .inl rfl
      · refine .inr ⟨_, [], rfl, fun zero => ?_⟩
        have value := hexValue_digitChar (by omega : n < 16)
        rw [zero] at value
        cases value
        cases positive
    · right
      rcases ih (n / radix) (Nat.div_lt_self (by omega) more) with zero | ⟨c, cs, same, other⟩
      · have value := valueIn_toDigits more small (n / radix)
        rw [zero] at value
        have none : n / radix = 0 := value.symm.trans (by simp [valueIn]; rfl)
        have := Nat.div_eq_zero_iff.mp none
        omega
      · exact ⟨c, cs ++ [(n % radix).digitChar], by rw [same]; rfl, other⟩

theorem isHexDigit_toDigits {radix : Nat} (more : 1 < radix) (small : radix ≤ 16) (n : Nat) :
    ∀ c ∈ Nat.toDigits radix n, isHexDigit c = true := by
  induction n using Nat.strongRecOn with
  | ind n ih =>
    rw [Nat.toDigits_eq_if more]
    have digit {d : Nat} (low : d < 16) : isHexDigit d.digitChar = true := by
      rw [isHexDigit, hexValue_digitChar low]
      rfl
    split
    · intro c member
      rw [List.mem_singleton.mp member]
      exact digit (by omega)
    · intro c member
      rcases List.mem_append.mp member with front | last
      · exact ih _ (Nat.div_lt_self (by omega) more) c front
      · rw [List.mem_singleton.mp last]
        exact digit (Nat.lt_of_lt_of_le (Nat.mod_lt n (by omega)) small)

end Digits

theorem all_isDigit_toDigits (n : Nat) : (Nat.toDigits 10 n).all Char.isDigit = true :=
  List.all_eq_true.mpr fun _ member =>
    Nat.isDigit_of_mem_toDigits (by decide) (by decide) member

theorem ipv4Number_toDigits (n : Nat) : ipv4Number (Nat.toDigits 10 n) = some n := by
  have value := valueIn_toDigits (by decide : 1 < 10) (by decide) n
  have digits := all_isDigit_toDigits n
  rcases head_toDigits (by decide : 1 < 10) (by decide) n with zero | ⟨c, cs, same, other⟩
  · rw [zero] at value ⊢
    simp [ipv4Number, value]
  · rw [same] at value digits ⊢
    unfold ipv4Number
    split <;> simp_all

def bytesOf (n : Nat) : List Nat := [n / 0x1000000, n / 0x10000 % 256, n / 256 % 256, n % 256]

theorem not_mem_toDigits {c : Char} (sign : c.isDigit = false) (n : Nat) :
    c ∉ Nat.toDigits 10 n := by
  intro member
  have digit := List.all_eq_true.mp (all_isDigit_toDigits n) c member
  rw [sign] at digit
  cases digit

theorem split_dotted (n : Nat) : split '.' (dotted n) = (bytesOf n).map (Nat.toDigits 10) := by
  have apart : ∀ l ∈ (bytesOf n).map (Nat.toDigits 10), '.' ∉ l := by
    simp only [List.forall_mem_map]
    exact fun b _ => not_mem_toDigits (by decide) b
  exact List.splitOn_intercalate '.' apart (by simp)

theorem labels_dotted (n : Nat) : labels (dotted n) = (bytesOf n).map (Nat.toDigits 10) := by
  rw [labels, split_dotted]
  simp [bytesOf, Nat.toDigits_ne_nil]

theorem mapM_eq_some {α β : Type} {f : α → Option β} {g : α → β} {as : List α}
    (each : ∀ a ∈ as, f a = some (g a)) : as.mapM f = some (as.map g) := by
  induction as with
  | nil => rfl
  | cons a as ih =>
    obtain ⟨first, rest⟩ := List.forall_mem_cons.mp each
    rw [List.mapM_cons, first, ih rest]
    rfl

theorem mapM_ipv4Number (bytes : List Nat) :
    (bytes.map (Nat.toDigits 10)).mapM ipv4Number = some bytes := by
  rw [List.mapM_map]
  exact (mapM_eq_some fun b _ => ipv4Number_toDigits b).trans (by rw [List.map_id'])

theorem ipv4Value_bytesOf {n : Nat} (fits : n < 0x100000000) : ipv4Value (bytesOf n) = some n := by
  have first : n / 0x1000000 ≤ 255 := by omega
  have second : n / 0x10000 % 256 ≤ 255 := by omega
  have third : n / 256 % 256 ≤ 255 := by omega
  have fourth : n % 256 < 256 := by omega
  simp [bytesOf, ipv4Value, first, second, third]
  omega

theorem ipv4Value_lt {numbers : List Nat} {n : Nat} (value : ipv4Value numbers = some n) :
    n < 0x100000000 := by
  unfold ipv4Value at value
  split at value
  · cases value
  · rename_i last rest _
    simp only at value
    generalize rest.reverse = firsts at value
    split at value
    · rename_i fits
      cases value
      obtain ⟨low, short, space⟩ := fits
      have small : ∀ b ∈ firsts, b < 256 := fun b member =>
        Nat.lt_succ_of_le (of_decide_eq_true (List.all_eq_true.mp low b member))
      have front := foldl_digits_lt small 0
      rw [Nat.zero_add, Nat.one_mul] at front
      calc _ < (firsts.foldl (fun acc n => acc * 256 + n) 0 + 1) * 256 ^ (4 - firsts.length) := by
            rw [Nat.add_mul, Nat.one_mul]
            exact Nat.add_lt_add_left space _
        _ ≤ 256 ^ firsts.length * 256 ^ (4 - firsts.length) := Nat.mul_le_mul_right _ front
        _ = 256 ^ 4 := by rw [← Nat.pow_add, Nat.add_sub_cancel' (by omega)]
    · cases value

theorem readIPv4_dotted {n : Nat} (fits : n < 0x100000000) :
    readIPv4 (dotted n) = .ok (dotted n) := by
  rw [readIPv4, labels_dotted, mapM_ipv4Number]
  simp only [ipv4Value_bytesOf fits]

theorem readIPv4_eq {name host : List Char} (read : readIPv4 name = .ok host) :
    ∃ n, n < 0x100000000 ∧ host = dotted n := by
  unfold readIPv4 at read
  split at read
  · split at read
    · rename_i n value
      cases read
      exact ⟨n, ipv4Value_lt value, rfl⟩
    · cases read
  · cases read

theorem mem_dotted {n : Nat} {c : Char} (member : c ∈ dotted n) : c = '.' ∨ c.isDigit = true := by
  rcases Text.of_mem_intercalate member with dot | ⟨piece, among, within⟩
  · exact .inl dot
  · obtain ⟨b, -, rfl⟩ := List.mem_map.mp among
    exact .inr (List.all_eq_true.mp (all_isDigit_toDigits b) c within)

theorem endsInNumber_dotted (n : Nat) : endsInNumber (dotted n) = true := by
  have digits := all_isDigit_toDigits (n % 256)
  rw [endsInNumber, labels_dotted]
  cases last : Nat.toDigits 10 (n % 256) with
  | nil => exact absurd last Nat.toDigits_ne_nil
  | cons c cs =>
    rw [last] at digits
    simp [bytesOf, last, digits]

end TestImpact.Web.Host
