import TestImpact.Text.Utf8

namespace TestImpact.Text.Utf8

theorem encode_of_decode? {bytes : Bytes} {s : String} (decoded : decode? bytes = some s) :
    encode s = bytes := by
  unfold decode? String.fromUTF8? at decoded
  split at decoded
  · cases decoded
    rfl
  · cases decoded

theorem encode_eq_flatMap (s : String) : encode s = s.toList.flatMap String.utf8EncodeChar := by
  show s.toByteArray.data.toList = _
  rw [← String.utf8Encode_toList, List.utf8Encode, List.data_toByteArray]

theorem encode_append (s t : String) : encode (s ++ t) = encode s ++ encode t := by
  rw [encode_eq_flatMap, encode_eq_flatMap, encode_eq_flatMap, String.toList_append,
    List.flatMap_append]

theorem encode_injective {s t : String} (same : encode s = encode t) : s = t := by
  have read := congrArg decode? same
  rwa [decode?_encode, decode?_encode, Option.some.injEq] at read

theorem forall_ascii {P : Char → Prop} (all : ∀ n : Fin 0x80, P (Char.ofNat n)) {c : Char}
    (ascii : c.toNat < 0x80) : P c := by
  have own := all ⟨c.toNat, ascii⟩
  rwa [Char.ofNat_toNat] at own

theorem range_of_isAlphanum {c : Char} (plain : c.isAlphanum = true) :
    48 ≤ c.toNat ∧ c.toNat ≤ 122 := by
  have within (low high : Char) (bounds : low.val ≤ c.val ∧ c.val ≤ high.val) :
      low.toNat ≤ c.toNat ∧ c.toNat ≤ high.toNat := bounds
  have codes : 'A'.toNat = 65 ∧ 'Z'.toNat = 90 ∧ 'a'.toNat = 97 ∧ 'z'.toNat = 122 ∧
    '0'.toNat = 48 ∧ '9'.toNat = 57 := by decide
  rcases (Bool.or_eq_true ..).mp plain with alpha | digit
  · rcases (Bool.or_eq_true ..).mp alpha with upper | lower
    · have := within 'A' 'Z' (of_decide_eq_true upper)
      omega
    · have := within 'a' 'z' (by simpa using (Bool.and_eq_true ..).mp lower)
      omega
  · have := within '0' '9' (by simpa using (Bool.and_eq_true ..).mp digit)
    omega

theorem encode_of_ascii {s : String} (ascii : ∀ c ∈ s.toList, c.val ≤ 127) :
    encode s = s.toList.map fun c => c.val.toUInt8 := by
  have all : ∀ cs : List Char, (∀ c ∈ cs, c.val ≤ 127) →
      cs.flatMap String.utf8EncodeChar = cs.map fun c => c.val.toUInt8 := by
    intro cs plain
    induction cs with
    | nil => rfl
    | cons c cs ih =>
      have single : c.utf8Size = 1 := Char.utf8Size_eq_one_iff.mpr (plain c (by simp))
      rw [List.flatMap_cons, String.utf8EncodeChar_eq_singleton single, List.map_cons,
        ih fun d member => plain d (by simp [member])]
      rfl
  rw [encode_eq_flatMap]
  exact all s.toList ascii

end TestImpact.Text.Utf8
