import Mathlib
import TestImpact.Proofs.Text.Utf8

namespace TestImpact.Text.Utf8

theorem utf8EncodeChar_lt {c d : Char} (less : c < d) (rest rest' : Bytes) :
    String.utf8EncodeChar c ++ rest < String.utf8EncodeChar d ++ rest' := by
  have order : c.val.toNat < d.val.toNat := less
  have last : d.val.toNat < 0x110000 := by
    have scalar := d.valid
    unfold UInt32.isValidChar Nat.isValidChar at scalar
    omega
  unfold String.utf8EncodeChar
  generalize c.val.toNat = v at order ⊢
  generalize d.val.toNat = w at order last ⊢
  have digits (n : Nat) : n / 4096 = n / 64 / 64 ∧ n / 262144 = n / 64 / 64 / 64 := by omega
  simp only [(digits _).1, (digits _).2]
  -- A longer form has the greater lead byte; forms of one length are numbers to base 64.
  split_ifs <;>
    simp only [List.cons_append, List.nil_append, List.cons_lt_cons_iff, UInt8.lt_iff_toNat_lt,
      ← UInt8.toNat_inj, UInt8.toNat_ofNat'] <;> omega

theorem flatMap_utf8EncodeChar_lt {cs ds : List Char} (less : cs < ds) :
    cs.flatMap String.utf8EncodeChar < ds.flatMap String.utf8EncodeChar := by
  induction less with
  | @nil d ds =>
    cases bytes : String.utf8EncodeChar d with
    | nil => exact absurd bytes (by simp)
    | cons b more => simp [bytes]
  | rel less => exact utf8EncodeChar_lt less _ _
  | cons less ih => exact List.append_left_lt ih

theorem encode_lt {s t : String} (less : s < t) : encode s < encode t := by
  rw [encode_eq_flatMap, encode_eq_flatMap]
  exact flatMap_utf8EncodeChar_lt (String.lt_iff_toList_lt.mp less)

end TestImpact.Text.Utf8
