import TestImpact.Proofs.Text.Utf8

namespace TestImpact.Text.Utf8

def further (n : Nat) : UInt8 := UInt8.ofNat (n % 64 + 128)

@[simp] theorem toNat_further (n : Nat) : (further n).toNat = n % 64 + 128 := by
  simp only [further, UInt8.toNat_ofNat']
  omega

theorem follow_further (n : Nat) {lo hi : UInt8} {v : Nat} (rest : Bytes)
    (low : lo.toNat ≤ v % 64 + 128) (high : v % 64 + 128 ≤ hi.toNat) :
    follow (n + 1) lo hi (further v :: rest) = follow n 0x80 0xBF rest + 1 := by
  rw [follow, if_pos]
  simp only [UInt8.le_iff_toNat_le, toNat_further]
  exact ⟨low, high⟩

theorem follow_map_further (vs : List Nat) (rest : Bytes) :
    follow vs.length 0x80 0xBF (vs.map further ++ rest) = vs.length := by
  induction vs with
  | nil => rfl
  | cons v vs ih =>
    have low : 0x80 ≤ v % 64 + 128 := by omega
    have high : v % 64 + 128 ≤ 0xBF := by omega
    rw [List.length_cons, List.map_cons, List.cons_append, follow_further _ _ low high, ih]

section Announced

variable {v : Nat}

theorem announced_one (high : v < 128) : announced (UInt8.ofNat v) = some (0, 0x80, 0xBF) := by
  rw [announced, if_pos]
  rw [UInt8.lt_iff_toNat_lt, UInt8.toNat_ofNat']
  show v % 256 < 128
  omega

theorem announced_two (low : 0x80 ≤ v) (high : v < 0x800) :
    announced (UInt8.ofNat (v / 64 + 192)) = some (1, 0x80, 0xBF) := by
  have all : ∀ n : Fin 32, 2 ≤ n.val →
    announced (UInt8.ofNat (n.val + 192)) = some (1, 0x80, 0xBF) := by decide
  have reach : 2 ≤ v / 64 := by omega
  exact all ⟨v / 64, by omega⟩ reach

theorem announced_three (low : 0x800 ≤ v) (high : v < 0x10000)
    (scalar : v < 0xD800 ∨ 0xDFFF < v) :
    ∃ lo hi, announced (UInt8.ofNat (v / 4096 + 224)) = some (2, lo, hi) ∧
      lo.toNat ≤ v / 64 % 64 + 128 ∧ v / 64 % 64 + 128 ≤ hi.toNat := by
  have all : ∀ n : Fin 16, announced (UInt8.ofNat (n.val + 224)) =
    some (2, if n.val = 0 then 0xA0 else 0x80, if n.val = 13 then 0x9F else 0xBF) := by decide
  refine ⟨_, _, all ⟨v / 4096, by omega⟩, ?_, ?_⟩ <;> dsimp only <;> split
  · show 0xA0 ≤ _; omega
  · show 0x80 ≤ _; omega
  · show _ ≤ 0x9F; omega
  · show _ ≤ 0xBF; omega

theorem announced_four (low : 0x10000 ≤ v) (high : v < 0x110000) :
    ∃ lo hi, announced (UInt8.ofNat (v / 262144 + 240)) = some (3, lo, hi) ∧
      lo.toNat ≤ v / 4096 % 64 + 128 ∧ v / 4096 % 64 + 128 ≤ hi.toNat := by
  have all : ∀ n : Fin 5, announced (UInt8.ofNat (n.val + 240)) =
    some (3, if n.val = 0 then 0x90 else 0x80, if n.val = 4 then 0x8F else 0xBF) := by decide
  refine ⟨_, _, all ⟨v / 262144, by omega⟩, ?_, ?_⟩ <;> dsimp only <;> split
  · show 0x90 ≤ _; omega
  · show 0x80 ≤ _; omega
  · show _ ≤ 0x8F; omega
  · show _ ≤ 0xBF; omega

end Announced

theorem head_of_announced {c : Char} {lead lo hi : UInt8} (v : Nat) (vs : List Nat)
    (announces : announced lead = some (vs.length + 1, lo, hi))
    (low : lo.toNat ≤ v % 64 + 128) (high : v % 64 + 128 ≤ hi.toNat)
    (code : ((v :: vs).map further).foldl (fun acc b => acc * 64 + b.toNat % 64)
      (leadBits lead (vs.length + 1)) = c.val.toNat) (rest : Bytes) :
    head lead ((v :: vs).map further ++ rest) = (some c, ((v :: vs).map further).length) := by
  have found : follow (vs.length + 1) lo hi ((v :: vs).map further ++ rest) = vs.length + 1 := by
    rw [List.map_cons, List.cons_append, follow_further _ _ low high, follow_map_further]
  have taken : ((v :: vs).map further ++ rest).take (vs.length + 1) = (v :: vs).map further :=
    List.take_left' (by simp)
  have same : Char.ofNat c.val.toNat = c := Char.ofNat_toNat c
  simp only [head, announces, found, if_true, taken, code, same, List.length_map, List.length_cons]

theorem utf8EncodeChar_eq (c : Char) :
    ∃ lead more, String.utf8EncodeChar c = lead :: more ∧
      ∀ rest, head lead (more ++ rest) = (some c, more.length) := by
  have scalar : c.val.toNat < 0xD800 ∨ 0xDFFF < c.val.toNat ∧ c.val.toNat < 0x110000 := c.valid
  unfold String.utf8EncodeChar
  generalize code : c.val.toNat = v at scalar ⊢
  by_cases one : v ≤ 127
  · refine ⟨UInt8.ofNat v, [], if_pos one, fun rest => ?_⟩
    have bits : (UInt8.ofNat v).toNat = c.val.toNat := by
      simp only [UInt8.toNat_ofNat', code]
      omega
    simp [head, announced_one (v := v) (by omega), follow, leadBits, bits]
  by_cases two : v ≤ 2047
  · refine ⟨UInt8.ofNat (v / 64 + 192), [v].map further, ?_, head_of_announced v []
      (announced_two (by omega) (by omega)) (by simp) (by simp; omega) ?_⟩
    · have : v / 64 % 32 = v / 64 := by omega
      simp [one, two, this, further]
    · simp [leadBits, code]
      omega
  by_cases three : v ≤ 65535
  · obtain ⟨lo, hi, announces, low, high⟩ :=
      announced_three (v := v) (by omega) (by omega) (by omega)
    refine ⟨UInt8.ofNat (v / 4096 + 224), [v / 64, v].map further, ?_,
      head_of_announced (v / 64) [v] announces low high ?_⟩
    · have : v / 4096 % 16 = v / 4096 := by omega
      simp [one, two, three, this, further]
    · simp [leadBits, code]
      omega
  · obtain ⟨lo, hi, announces, low, high⟩ := announced_four (v := v) (by omega) (by omega)
    refine ⟨UInt8.ofNat (v / 262144 + 240), [v / 4096, v / 64, v].map further, ?_,
      head_of_announced (v / 4096) [v / 64, v] announces low high ?_⟩
    · have : v / 262144 % 8 = v / 262144 := by omega
      simp [one, two, three, this, further]
    · simp [leadBits, code]
      omega

theorem units_utf8EncodeChar (c : Char) (rest : Bytes) :
    units (String.utf8EncodeChar c ++ rest) = some c :: units rest := by
  obtain ⟨lead, more, bytes, read⟩ := utf8EncodeChar_eq c
  rw [bytes, List.cons_append, units, read]
  simp

theorem units_encode (s : String) : units (encode s) = s.toList.map some := by
  rw [encode_eq_flatMap]
  induction s.toList with
  | nil => rw [List.flatMap_nil, units]; rfl
  | cons c cs ih => rw [List.flatMap_cons, units_utf8EncodeChar, ih, List.map_cons]

end TestImpact.Text.Utf8
