import TestImpact.Proofs.Text.Utf8
import TestImpact.Web.Percent

namespace TestImpact.Web.Percent

theorem hexValue_hexDigit {n : Nat} (digit : n < 16) : hexValue (hexDigit n) = some n := by
  have all : ∀ m : Fin 16, hexValue (hexDigit m) = some m.val := by decide
  exact all ⟨n, digit⟩

theorem hexDigit_mod (n : Nat) : hexDigit (n % 16) = hexDigit n := by
  unfold hexDigit
  rw [Nat.mod_mod]

theorem isAlphanum_hexDigit (n : Nat) : (hexDigit n).isAlphanum = true := by
  have all : ∀ m : Fin 16, (hexDigit m).isAlphanum = true := by decide
  have digit : n % 16 < 16 := Nat.mod_lt n (by decide)
  rw [← hexDigit_mod]
  exact all ⟨n % 16, digit⟩

theorem decode_encodeByte (b : UInt8) (rest : List Char) :
    decode (encodeByte b ++ rest) = b :: decode rest := by
  have small : b.toNat < 256 := b.toNat_lt
  have high : b.toNat / 16 < 16 := by omega
  have low : b.toNat % 16 < 16 := by omega
  have whole : b.toNat / 16 * 16 + b.toNat % 16 = b.toNat := by omega
  show decode ('%' :: hexDigit (b.toNat / 16) :: hexDigit b.toNat :: rest) = _
  rw [← hexDigit_mod b.toNat, decode]
  simp only [if_true, hexValue_hexDigit high, hexValue_hexDigit low, whole, UInt8.ofNat_toNat]

theorem decode_encodeBytes (bytes : List UInt8) (rest : List Char) :
    decode (bytes.flatMap encodeByte ++ rest) = bytes ++ decode rest := by
  induction bytes with
  | nil => rfl
  | cons b bytes ih => rw [List.flatMap_cons, List.append_assoc, decode_encodeByte, ih]; rfl

theorem decode_cons {c : Char} (plain : c ≠ '%') (rest : List Char) :
    decode (c :: rest) = String.utf8EncodeChar c ++ decode rest := by
  rcases rest with _ | ⟨a, _ | ⟨b, more⟩⟩ <;> simp [decode, plain]

theorem decode_of_plain {cs : List Char} (plain : '%' ∉ cs) :
    decode cs = cs.flatMap String.utf8EncodeChar := by
  induction cs with
  | nil => rfl
  | cons c cs ih =>
    rw [List.mem_cons, not_or] at plain
    rw [decode_cons (Ne.symm plain.1), ih plain.2, List.flatMap_cons]

theorem decode_encodeChar {set : EncodeSet} (escaped : '%' ∈ set) (c : Char) (rest : List Char) :
    decode (encodeChar set c ++ rest) = String.utf8EncodeChar c ++ decode rest := by
  unfold encodeChar
  split
  · rename_i kept
    have plain : c ≠ '%' := by
      rintro rfl
      simp [isKept, escaped] at kept
    exact decode_cons plain rest
  · exact decode_encodeBytes _ rest

theorem decode_encode {set : EncodeSet} (escaped : '%' ∈ set) (cs : List Char) :
    decode (encode set cs) = cs.flatMap String.utf8EncodeChar := by
  induction cs with
  | nil => rfl
  | cons c cs ih =>
    show decode (encodeChar set c ++ encode set cs) = _
    rw [decode_encodeChar escaped, ih, List.flatMap_cons]

theorem not_mem_encode {set : EncodeSet} {c : Char} (escaped : c ∈ set)
    (sign : c.isAlphanum = false) (other : c ≠ '%') (cs : List Char) : c ∉ encode set cs := by
  intro member
  obtain ⟨d, -, within⟩ := List.mem_flatMap.mp member
  unfold encodeChar at within
  split at within
  · rename_i kept
    rw [List.mem_singleton.mp within] at escaped
    simp [isKept, escaped] at kept
  · obtain ⟨b, -, within⟩ := List.mem_flatMap.mp within
    have hex (n : Nat) : c ≠ hexDigit n := by
      rintro rfl
      rw [isAlphanum_hexDigit] at sign
      cases sign
    simp [encodeByte, other, hex] at within

/-- A set in which neither the percent sign nor what may follow it is encoded. -/
def IsOpen (set : EncodeSet) : Prop := ∀ c ∈ set, c ≠ '%' ∧ c.isAlphanum = false

instance (set : EncodeSet) : Decidable (IsOpen set) := List.decidableBAll _ set

variable {set keep : EncodeSet} {cs : List Char}

theorem isKept_of_isAlphanum (bare : IsOpen set) {c : Char} (plain : c.isAlphanum = true) :
    isKept set c = true := by
  have unlisted : c ∉ set := by
    intro member
    cases plain.symm.trans (bare c member).2
  have range : 0x20 ≤ c.toNat ∧ c.toNat < 0x7F := by
    have := Text.Utf8.range_of_isAlphanum plain
    omega
  simp [isKept, range, unlisted]

theorem isKept_percent (bare : IsOpen set) : isKept set '%' = true := by
  have unlisted : '%' ∉ set := fun member => (bare '%' member).1 rfl
  simp [isKept, unlisted]

theorem isKept_of_mem_encode (bare : IsOpen keep) (wide : keep ⊆ set) :
    ∀ c ∈ encode set cs, isKept keep c = true := by
  intro c member
  obtain ⟨d, -, within⟩ := List.mem_flatMap.mp member
  unfold encodeChar at within
  split at within
  · rename_i kept
    rw [List.mem_singleton.mp within]
    simp only [isKept, Bool.and_eq_true, Bool.not_eq_true', List.contains_eq_mem,
      decide_eq_false_iff_not] at kept ⊢
    exact ⟨kept.1, fun escaped => kept.2 (wide escaped)⟩
  · obtain ⟨b, -, within⟩ := List.mem_flatMap.mp within
    have hex (n : Nat) : isKept keep (hexDigit n) = true :=
      isKept_of_isAlphanum bare (isAlphanum_hexDigit n)
    simp only [encodeByte, List.mem_cons, List.not_mem_nil, or_false] at within
    rcases within with rfl | rfl | rfl
    · exact isKept_percent bare
    · exact hex _
    · exact hex _

theorem of_mem_encode {c : Char} (member : c ∈ encode set cs) :
    c ∈ cs ∨ c = '%' ∨ c.isAlphanum = true := by
  obtain ⟨d, own, within⟩ := List.mem_flatMap.mp member
  unfold encodeChar at within
  split at within
  · rw [List.mem_singleton.mp within]
    exact .inl own
  · obtain ⟨b, -, within⟩ := List.mem_flatMap.mp within
    simp only [encodeByte, List.mem_cons, List.not_mem_nil, or_false] at within
    rcases within with rfl | rfl | rfl
    · exact .inr (.inl rfl)
    · exact .inr (.inr (isAlphanum_hexDigit _))
    · exact .inr (.inr (isAlphanum_hexDigit _))

theorem ne_of_isKept {c d : Char} (escaped : d ∈ set) (kept : isKept set c = true) : c ≠ d := by
  rintro rfl
  simp [isKept, escaped] at kept

theorem lt_of_isKept (blank : ' ' ∈ set) {c : Char} (kept : isKept set c = true) :
    0x20 < c.toNat := by
  have other : c.toNat ≠ ' '.toNat := fun same =>
    ne_of_isKept blank kept (Char.toNat_inj.mp same)
  simp only [isKept, Bool.and_eq_true, decide_eq_true_eq] at kept
  simp at other
  omega

theorem encode_of_kept (kept : ∀ c ∈ cs, isKept set c = true) : encode set cs = cs := by
  induction cs with
  | nil => rfl
  | cons c cs ih =>
    obtain ⟨first, rest⟩ := List.forall_mem_cons.mp kept
    show encodeChar set c ++ encode set cs = _
    rw [ih rest, encodeChar, if_pos first]
    rfl

end TestImpact.Web.Percent
