import TestImpact.Proofs.Web.Host.Domain
import TestImpact.Proofs.Web.Host.IPv6
import TestImpact.Web.Url.Read

namespace TestImpact.Web.Host

section Numbers

theorem ascii_of_isDigit {c : Char} (digit : c.isDigit = true) : c.toNat < 0x80 := by
  have plain : c.isAlphanum = true := by simp [Char.isAlphanum, digit]
  have := Text.Utf8.range_of_isAlphanum plain
  omega

theorem isNameChar_of_isDigit {c : Char} (digit : c.isDigit = true) : IsNameChar c := by
  have digits : ∀ n : Fin 0x80, (Char.ofNat n).isDigit = true → IsNameChar (Char.ofNat n) := by
    decide
  exact Text.Utf8.forall_ascii (P := fun c => c.isDigit = true → IsNameChar c) digits
    (ascii_of_isDigit digit) digit

theorem isNameChar_dotted {n : Nat} {c : Char} (member : c ∈ dotted n) : IsNameChar c := by
  rcases mem_dotted member with rfl | digit
  · decide
  · exact isNameChar_of_isDigit digit

theorem not_bindsName {c : Char} (digit : c.isDigit = true) :
    (Domain.Direction.of c.toNat).bindsName = false := by
  have digits : ∀ n : Fin 0x80, (Char.ofNat n).isDigit = true →
      (Domain.Direction.of (Char.ofNat n).toNat).bindsName = false := by
    decide
  exact Text.Utf8.forall_ascii (P := fun c => c.isDigit = true →
    (Domain.Direction.of c.toNat).bindsName = false) digits (ascii_of_isDigit digit) digit

theorem read?_toDigits (n : Nat) : Domain.Label.read? (Nat.toDigits 10 n) =
    some ⟨(Nat.toDigits 10 n).map Char.toNat, Nat.toDigits 10 n⟩ := by
  have unmarked : ¬ Domain.encodedMark.isPrefixOf (Nat.toDigits 10 n) = true := by
    rw [List.isPrefixOf_iff_prefix]
    intro marked
    exact not_mem_toDigits (by decide) n (marked.subset (by decide : 'x' ∈ Domain.encodedMark))
  have ascii : Domain.isAscii ((Nat.toDigits 10 n).map Char.toNat) = true := by
    simpa [Domain.isAscii] using fun c member =>
      ascii_of_isDigit (Nat.isDigit_of_mem_toDigits (by decide) (by decide) member)
  simp [Domain.Label.read?, unmarked, ascii]

theorem asciiLabels?_toDigits (bytes : List Nat) :
    Domain.asciiLabels? (bytes.map (Nat.toDigits 10)) = some (bytes.map (Nat.toDigits 10)) := by
  let label (b : Nat) : Domain.Label := ⟨(Nat.toDigits 10 b).map Char.toNat, Nat.toDigits 10 b⟩
  have read : (bytes.map (Nat.toDigits 10)).mapM Domain.Label.read? = some (bytes.map label) := by
    rw [List.mapM_map]
    exact mapM_eq_some fun b _ => read?_toDigits b
  have directed : Domain.areDirected ((bytes.map label).map Domain.Label.points) = true := by
    have free : ∀ b ∈ bytes, ∀ c ∈ Nat.toDigits 10 b,
        (Domain.Direction.of c.toNat).bindsName = false := fun b _ c member =>
      not_bindsName (Nat.isDigit_of_mem_toDigits (by decide) (by decide) member)
    simp only [Domain.areDirected, List.map_map, Bool.or_eq_true, Bool.not_eq_true',
      List.any_eq_false]
    left
    simpa [label] using free
  rw [Domain.asciiLabels?, read]
  show (if Domain.areDirected ((bytes.map label).map Domain.Label.points) = true then
    some ((bytes.map label).map Domain.Label.text) else none) = _
  rw [if_pos directed, List.map_map]
  rfl

theorem dotted_ne_nil (n : Nat) : dotted n ≠ [] := by
  intro none
  have number := endsInNumber_dotted n
  rw [none] at number
  revert number
  decide

theorem readDomain_dotted {n : Nat} (fits : n < 0x100000000) :
    readDomain (dotted n) = .ok (dotted n) := by
  rw [readDomain_of_named fun c member => isNameChar_dotted member, split_dotted,
    asciiLabels?_toDigits]
  show (if dotted n = [] then _ else if endsInNumber (dotted n) = true then readIPv4 (dotted n)
    else _) = _
  rw [if_neg (dotted_ne_nil n), if_pos (endsInNumber_dotted n), readIPv4_dotted fits]

end Numbers

theorem isLabelChar_of_spell {points : List Nat}
    (free : ¬ ((Domain.spell points).map Char.ofNat).any isBarred = true) :
    ∀ l ∈ split '.' ((Domain.spell points).map Char.ofNat), ∀ c ∈ l, IsLabelChar c := by
  intro l part c within
  have among := Text.mem_of_mem_splitOn part within
  have dot := Text.not_mem_of_mem_splitOn part
  have passes := List.any_eq_false.mp (Bool.eq_false_iff.mpr free) c among
  refine ⟨Bool.eq_false_iff.mpr passes, ?_, fun same => dot (same ▸ within)⟩
  obtain ⟨n, member, rfl⟩ := List.mem_map.mp among
  have small := Domain.spell_small points n member
  by_cases valid : n.isValidChar
  · rw [Char.ofNat, dif_pos valid]
    exact small
  · rw [Char.ofNat, dif_neg valid]
    decide

theorem readDomain_named {cs host : List Char} (read : readDomain cs = .ok host) :
    readDomain host = .ok host ∧ host ≠ [] ∧ ∀ c ∈ host, IsNameChar c := by
  unfold readDomain at read
  split at read
  · cases read
  · rename_i s _
    simp only at read
    split at read
    · cases read
    · rename_i free
      split at read
      · cases read
      · rename_i labels ascii
        obtain ⟨again, named⟩ := Domain.asciiLabels?_again ascii (isLabelChar_of_spell free)
        have chars : ∀ c ∈ ['.'].intercalate labels, IsNameChar c := by
          intro c member
          rcases Text.of_mem_intercalate member with rfl | ⟨l, among, within⟩
          · decide
          · exact (named l among c within).1
        split at read
        · cases read
        · rename_i filled
          split at read
          · obtain ⟨n, fits, rfl⟩ := readIPv4_eq read
            exact ⟨readDomain_dotted fits, dotted_ne_nil n, fun c => isNameChar_dotted⟩
          · rename_i number
            cases read
            have parts : split '.' (['.'].intercalate labels) = labels := by
              refine List.splitOn_intercalate '.' (fun l among within => ?_) ?_
              · exact (named l among '.' within).2 rfl
              · rintro rfl
                exact filled rfl
            refine ⟨?_, filled, chars⟩
            rw [readDomain_of_named chars, parts, again]
            simp only [if_neg filled, if_neg number]

section Known

/-- A character that may stand in the part of a URL that names user, host and port, and ends
    neither of them. -/
def IsPlaceChar (c : Char) : Prop := 0x20 < c.toNat ∧ c ∉ ['/', '\\', '?', '#', '@']

instance (c : Char) : Decidable (IsPlaceChar c) := inferInstanceAs (Decidable (_ ∧ _))

/-- A host as it is after it was read: it is read as it is, and told apart from a port behind it. -/
structure IsKnown (host : List Char) : Prop where
  again : readKnown host = .ok host
  filled : host ≠ []
  chars : ∀ c ∈ host, IsPlaceChar c
  port : ∀ rest : List Char, rest = [] ∨ rest.head? = some ':' →
    Url.splitPort false (host ++ rest) = (host, rest)

theorem splitPort_behind {rest : List Char} (behind : rest = [] ∨ rest.head? = some ':') :
    Url.splitPort false rest = ([], rest) := by
  rcases rest with _ | ⟨c, rest⟩
  · rfl
  · have colon : c = ':' := by simpa using behind
    rw [colon, Url.splitPort, if_pos ⟨rfl, rfl⟩]

theorem splitPort_append {cs : List Char} (plain : ∀ c ∈ cs, c ≠ '[' ∧ c ≠ ']')
    {inBrackets : Bool} (colon : inBrackets = true ∨ ':' ∉ cs) (rest : List Char) :
    Url.splitPort inBrackets (cs ++ rest) =
      (cs ++ (Url.splitPort inBrackets rest).1, (Url.splitPort inBrackets rest).2) := by
  induction cs with
  | nil => rfl
  | cons c cs ih =>
    obtain ⟨first, others⟩ := List.forall_mem_cons.mp plain
    have inside : ¬ (c = ':' ∧ inBrackets = false) := by
      rintro ⟨rfl, rfl⟩
      simp at colon
    have more := ih others (colon.imp_right fun absent member => absent (.tail _ member))
    rw [List.cons_append, Url.splitPort, if_neg inside, if_neg first.1, if_neg first.2, more]
    rfl

theorem IsNameChar.isPlaceChar {c : Char} (named : IsNameChar c) :
    IsPlaceChar c ∧ c ≠ '[' ∧ c ≠ ']' ∧ c ≠ ':' := by
  have all : ∀ n : Fin 0x80, IsNameChar (Char.ofNat n) → IsPlaceChar (Char.ofNat n) ∧
      Char.ofNat n ≠ '[' ∧ Char.ofNat n ≠ ']' ∧ Char.ofNat n ≠ ':' := by
    decide
  exact Text.Utf8.forall_ascii (P := fun c => IsNameChar c → IsPlaceChar c ∧ c ≠ '[' ∧ c ≠ ']' ∧
    c ≠ ':') all named.ascii named

theorem isKnown_name {cs host : List Char} (read : readDomain cs = .ok host) : IsKnown host := by
  obtain ⟨again, filled, named⟩ := readDomain_named read
  have plain : ∀ c ∈ host, IsPlaceChar c ∧ c ≠ '[' ∧ c ≠ ']' ∧ c ≠ ':' :=
    fun c member => (named c member).isPlaceChar
  refine ⟨?_, filled, fun c member => (plain c member).1, fun rest behind => ?_⟩
  · rw [readKnown]
    · exact again
    · rintro more rfl
      exact (plain '[' List.mem_cons_self).2.1 rfl
  · have colon : ':' ∉ host := fun member => (plain ':' member).2.2.2 rfl
    rw [splitPort_append (fun c member => ⟨(plain c member).2.1, (plain c member).2.2.1⟩)
      (.inr colon), splitPort_behind behind, List.append_nil]

theorem isHexDigit_ascii {c : Char} (digit : isHexDigit c = true) : c.toNat < 0x80 := by
  have top (high : Char) (below : c ≤ high) : c.toNat ≤ high.toNat := below
  have codes : '9'.toNat = 57 ∧ 'f'.toNat = 102 ∧ 'F'.toNat = 70 := by decide
  unfold isHexDigit Percent.hexValue at digit
  split at digit
  · have := top '9' (by simp_all)
    omega
  split at digit
  · have := top 'f' (by simp_all)
    omega
  split at digit
  · have := top 'F' (by simp_all)
    omega
  · cases digit

theorem isPlaceChar_piece {c : Char} (piece : c = ':' ∨ isHexDigit c = true) :
    IsPlaceChar c ∧ c ≠ '[' ∧ c ≠ ']' := by
  have all : ∀ n : Fin 0x80, isHexDigit (Char.ofNat n) = true → IsPlaceChar (Char.ofNat n) ∧
      Char.ofNat n ≠ '[' ∧ Char.ofNat n ≠ ']' := by
    decide
  rcases piece with rfl | digit
  · decide
  · exact Text.Utf8.forall_ascii (P := fun c => isHexDigit c = true → IsPlaceChar c ∧ c ≠ '[' ∧
      c ≠ ']') all (isHexDigit_ascii digit) digit

theorem isKnown_bracketed {cs host : List Char} (read : readBracketed cs = .ok host) :
    IsKnown host := by
  obtain ⟨pieces, address, rfl⟩ := readBracketed_eq read
  have plain : ∀ c ∈ ipv6Text pieces, IsPlaceChar c ∧ c ≠ '[' ∧ c ≠ ']' :=
    fun c member => isPlaceChar_piece (mem_ipv6Text member)
  refine ⟨readBracketed_ipv6Text address, nofun, ?_, fun rest behind => ?_⟩
  · intro c member
    rw [List.cons_append, List.mem_cons, List.mem_append, List.mem_singleton] at member
    rcases member with rfl | inner | rfl
    · decide
    · exact (plain c inner).1
    · decide
  · have opening : ¬ ('[' = ':' ∧ false = false) := by decide
    have closing : Url.splitPort true (']' :: rest) = (']' :: [], rest) := by
      rw [Url.splitPort, if_neg (by decide), if_neg (by decide), if_pos rfl,
        splitPort_behind behind]
    rw [List.cons_append, List.cons_append, List.append_assoc, Url.splitPort, if_neg opening,
      if_pos rfl, List.singleton_append,
      splitPort_append (fun c member => (plain c member).2) (.inl rfl), closing]

/-- Every host that is read is read from its own text again. -/
theorem isKnown_of_readKnown {cs host : List Char} (read : readKnown cs = .ok host) :
    IsKnown host := by
  unfold readKnown at read
  split at read
  · exact isKnown_bracketed read
  · exact isKnown_name read

end Known

end TestImpact.Web.Host
