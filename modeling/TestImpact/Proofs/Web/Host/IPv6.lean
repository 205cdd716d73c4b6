import TestImpact.Proofs.Web.Host.IPv4

namespace TestImpact.Web.Host

structure IsAddress (pieces : List Nat) : Prop where
  count : pieces.length = 8
  fits : ∀ p ∈ pieces, p < 0x10000

section Reading

theorem hexValue_lt {c : Char} {d : Nat} (value : Percent.hexValue c = some d) : d < 16 := by
  unfold Percent.hexValue at value
  split at value
  · rename_i range
    cases value
    have top : c.toNat ≤ '9'.toNat := range.2
    simp at top ⊢
    omega
  split at value
  · rename_i range
    cases value
    have top : c.toNat ≤ 'f'.toNat := range.2
    simp at top ⊢
    omega
  split at value
  · rename_i range
    cases value
    have top : c.toNat ≤ 'F'.toNat := range.2
    simp at top ⊢
    omega
  · cases value

theorem valueIn_lt (cs : List Char) : valueIn 16 cs < 16 ^ cs.length := by
  have small : ∀ c ∈ cs, (Percent.hexValue c).getD 0 < 16 := by
    intro c _
    cases value : Percent.hexValue c with
    | none => decide
    | some d => exact hexValue_lt value
  simpa [valueIn] using foldl_digits_lt small 0

theorem ipv6Piece_lt {cs : List Char} {p : Nat} (read : ipv6Piece cs = some p) : p < 0x10000 := by
  unfold ipv6Piece at read
  split at read
  · rename_i shape
    cases read
    calc valueIn 16 cs < 16 ^ cs.length := valueIn_lt cs
      _ ≤ 16 ^ 4 := Nat.pow_le_pow_right (by decide) shape.2.1
  · cases read

theorem ipv6Byte_lt {cs : List Char} {b : Nat} (read : ipv6Byte cs = some b) : b < 256 := by
  unfold ipv6Byte at read
  split at read
  · cases read
  · cases read
  · split at read
    · cases read
      omega
    · cases read

theorem mapM_ipv6Byte_lt {texts : List (List Char)} {bytes : List Nat}
    (read : texts.mapM ipv6Byte = some bytes) : ∀ b ∈ bytes, b < 256 := by
  induction texts generalizing bytes with
  | nil =>
    cases read
    nofun
  | cons text texts ih =>
    simp only [List.mapM_cons, Option.bind_eq_bind, Option.bind_eq_some_iff] at read
    obtain ⟨b, first, more, rest, same⟩ := read
    cases same
    exact List.forall_mem_cons.mpr ⟨ipv6Byte_lt first, ih rest⟩

theorem ipv6Pieces_lt {texts : List (List Char)} {pieces : List Nat}
    (read : ipv6Pieces texts = some pieces) : ∀ p ∈ pieces, p < 0x10000 := by
  fun_induction ipv6Pieces texts generalizing pieces with
  | case1 =>
    cases read
    nofun
  | case2 last dots =>
    simp only [Option.bind_eq_bind, Option.bind_eq_some_iff] at read
    obtain ⟨bytes, each, read⟩ := read
    have small := mapM_ipv6Byte_lt each
    split at read
    · cases read
      simp only [List.forall_mem_cons] at small ⊢
      exact ⟨by omega, by omega, nofun⟩
    · cases read
  | case3 last plain =>
    obtain ⟨p, piece, rfl⟩ := Option.map_eq_some_iff.mp read
    exact List.forall_mem_singleton.mpr (ipv6Piece_lt piece)
  | case4 piece more nonempty ih =>
    simp only [Option.bind_eq_bind, Option.bind_eq_some_iff] at read
    obtain ⟨p, first, ps, rest, same⟩ := read
    cases same
    exact List.forall_mem_cons.mpr ⟨ipv6Piece_lt first, ih rest⟩

theorem piecesOf_lt {cs : List Char} {pieces : List Nat} (read : piecesOf cs = some pieces) :
    ∀ p ∈ pieces, p < 0x10000 := by
  unfold piecesOf at read
  split at read
  · cases read
    nofun
  · exact ipv6Pieces_lt read

theorem readPieces_isAddress {cs : List Char} {pieces : List Nat}
    (read : readPieces cs = some pieces) : IsAddress pieces := by
  unfold readPieces at read
  split at read
  · simp only [Option.bind_eq_bind, Option.bind_eq_some_iff] at read
    obtain ⟨front, first, back, second, read⟩ := read
    split at read
    · rename_i room
      cases read
      have zero : ∀ p ∈ List.replicate (8 - front.length - back.length) 0, p < 0x10000 := by
        intro p member
        rw [List.eq_of_mem_replicate member]
        decide
      refine ⟨by simp; omega, ?_⟩
      simp only [List.forall_mem_append]
      exact ⟨⟨piecesOf_lt first, zero⟩, piecesOf_lt second⟩
    · cases read
  · simp only [Option.bind_eq_bind, Option.bind_eq_some_iff] at read
    obtain ⟨all, each, read⟩ := read
    split at read
    · rename_i count
      cases read
      exact ⟨count, piecesOf_lt each⟩
    · cases read

end Reading

section Gap

variable {pieces : List Nat}

theorem longestZeros_run (pieces : List Nat) :
    (longestZeros pieces).2 ≤
      ((pieces.drop (longestZeros pieces).1).takeWhile (· = 0)).length := by
  unfold longestZeros
  have start : (0, 0).2 ≤ ((pieces.drop (0, 0).1).takeWhile (· = 0)).length := Nat.zero_le _
  generalize ((0, 0) : Nat × Nat) = best at start
  generalize List.range pieces.length = places
  induction places generalizing best with
  | nil => exact start
  | cons i places ih =>
    refine ih _ ?_
    simp only
    split
    · exact Nat.le_refl _
    · exact start

theorem take_of_takeWhile {l : List Nat} {n : Nat} (run : n ≤ (l.takeWhile (· = 0)).length) :
    l.take n = List.replicate n 0 := by
  obtain ⟨rest, same⟩ := List.takeWhile_prefix (fun p : Nat => decide (p = 0)) (l := l)
  rw [← same, List.take_append_of_le_length run, List.eq_replicate_iff]
  refine ⟨by rw [List.length_take, Nat.min_eq_left run], fun p member => ?_⟩
  exact of_decide_eq_true (List.all_eq_true.mp List.all_takeWhile p (List.mem_of_mem_take member))

theorem pieces_around_gap (pieces : List Nat) {start n : Nat}
    (longest : longestZeros pieces = (start, n)) :
    pieces = pieces.take start ++ List.replicate n 0 ++ pieces.drop (start + n) := by
  have run := longestZeros_run pieces
  rw [longest] at run
  rw [← take_of_takeWhile run, List.append_assoc, ← List.drop_drop, List.take_append_drop,
    List.take_append_drop]

end Gap

section Writing

theorem isHexDigit_hexText {p : Nat} {c : Char} (member : c ∈ hexText p) : isHexDigit c = true :=
  isHexDigit_toDigits (by decide) (by decide) p c member

theorem not_mem_hexText {c : Char} (sign : isHexDigit c = false) (p : Nat) : c ∉ hexText p := by
  intro member
  rw [isHexDigit_hexText member] at sign
  cases sign

def joined (pieces : List Nat) : List Char := [':'].intercalate (pieces.map hexText)

theorem mem_joined {pieces : List Nat} {c : Char} (member : c ∈ joined pieces) :
    c = ':' ∨ isHexDigit c = true := by
  rcases Text.of_mem_intercalate member with colon | ⟨piece, among, within⟩
  · exact .inl colon
  · obtain ⟨p, -, rfl⟩ := List.mem_map.mp among
    exact .inr (isHexDigit_hexText within)

theorem splitGap_cons {c : Char} {rest : List Char} (apart : c ≠ ':' ∨ rest.head? ≠ some ':') :
    splitGap (c :: rest) = (splitGap rest).map fun (a, b) => (c :: a, b) := by
  rw [splitGap]
  rintro more rfl rfl
  simp at apart

theorem splitGap_append {cs : List Char} (plain : ':' ∉ cs) (rest : List Char) :
    splitGap (cs ++ rest) = (splitGap rest).map fun (a, b) => (cs ++ a, b) := by
  induction cs with
  | nil => simp
  | cons c cs ih =>
    rw [List.mem_cons, not_or] at plain
    rw [List.cons_append, splitGap_cons (.inl (Ne.symm plain.1)), ih plain.2, Option.map_map]
    rfl

theorem colon_not_mem (p : Nat) : ':' ∉ hexText p := not_mem_hexText (by decide) p

/-- No gap begins inside pieces that are written, nor at their end: a digit follows each colon. -/
theorem splitGap_joined_append (pieces : List Nat) (rest : List Char) :
    splitGap (joined pieces ++ rest) =
      (splitGap rest).map fun (a, b) => (joined pieces ++ a, b) := by
  have behind (ps : List Nat) : splitGap ((ps.map hexText).flatMap (':' :: ·) ++ rest) =
      (splitGap rest).map fun (a, b) => ((ps.map hexText).flatMap (':' :: ·) ++ a, b) := by
    induction ps with
    | nil => simp
    | cons p ps ih =>
      have digit :
          (hexText p ++ ((ps.map hexText).flatMap (':' :: ·) ++ rest)).head? ≠ some ':' := by
        obtain ⟨c, cs, same⟩ := List.exists_cons_of_ne_nil (Nat.toDigits_ne_nil (n := p) (b := 16))
        have first : c ≠ ':' := fun colon =>
          colon_not_mem p (by rw [hexText, same, colon]; exact List.mem_cons_self)
        simpa [hexText, same] using first
      rw [List.map_cons, List.flatMap_cons, List.append_assoc, List.cons_append,
        splitGap_cons (.inr digit), splitGap_append (colon_not_mem p), ih, Option.map_map,
        Option.map_map]
      simp [Function.comp_def]
  cases pieces with
  | nil => simp [joined]
  | cons p ps =>
    rw [joined, List.map_cons, Text.intercalate_cons, List.append_assoc,
      splitGap_append (colon_not_mem p), behind ps, Option.map_map]
    simp [Function.comp_def]

theorem ipv6Piece_hexText {p : Nat} (fits : p < 0x10000) : ipv6Piece (hexText p) = some p := by
  have short : (hexText p).length ≤ 4 :=
    (Nat.length_toDigits_le_iff (by decide) (by decide)).mpr fits
  have digits : (hexText p).all isHexDigit = true :=
    List.all_eq_true.mpr fun c member => isHexDigit_hexText member
  have value : valueIn 16 (hexText p) = p := valueIn_toDigits (by decide) (by decide) p
  have filled : hexText p ≠ [] := Nat.toDigits_ne_nil
  simp [ipv6Piece, filled, short, digits, value]

theorem ipv6Pieces_map {pieces : List Nat} (fits : ∀ p ∈ pieces, p < 0x10000) :
    ipv6Pieces (pieces.map hexText) = some pieces := by
  induction pieces with
  | nil => rfl
  | cons p ps ih =>
    obtain ⟨first, rest⟩ := List.forall_mem_cons.mp fits
    cases ps with
    | nil =>
      have plain : '.' ∉ hexText p := not_mem_hexText (by decide) p
      simp [ipv6Pieces, plain, ipv6Piece_hexText first]
    | cons q ps =>
      have more := ih rest
      rw [List.map_cons] at more ⊢
      simp [ipv6Pieces, ipv6Piece_hexText first, more]

theorem piecesOf_joined {pieces : List Nat} (fits : ∀ p ∈ pieces, p < 0x10000) :
    piecesOf (joined pieces) = some pieces := by
  cases pieces with
  | nil => rfl
  | cons p ps =>
    have apart : ∀ l ∈ (p :: ps).map hexText, ':' ∉ l := by
      simp only [List.forall_mem_map]
      exact fun q _ => colon_not_mem q
    have parts : split ':' (joined (p :: ps)) = (p :: ps).map hexText :=
      List.splitOn_intercalate ':' apart (by simp)
    have filled : (joined (p :: ps)).isEmpty = false := by
      rw [joined, List.map_cons, Text.intercalate_cons]
      simp [hexText, Nat.toDigits_ne_nil]
    rw [piecesOf, filled, parts, ipv6Pieces_map fits]
    rfl

theorem readPieces_ipv6Text {pieces : List Nat} (address : IsAddress pieces) :
    readPieces (ipv6Text pieces) = some pieces := by
  obtain ⟨count, fits⟩ := address
  obtain ⟨⟨start, n⟩, longest⟩ : ∃ run, longestZeros pieces = run := ⟨_, rfl⟩
  have whole := pieces_around_gap pieces longest
  unfold ipv6Text
  rw [longest]
  simp only
  split
  · rename_i gap
    generalize pieces.take start = front at whole
    generalize pieces.drop (start + n) = back at whole
    subst whole
    simp only [List.forall_mem_append] at fits
    have split : splitGap (joined front ++ ':' :: ':' :: joined back) =
        some (joined front, joined back) := by
      simpa [splitGap] using splitGap_joined_append front (':' :: ':' :: joined back)
    have plain : '.' ∉ joined front := fun member => by
      rcases mem_joined member with colon | digit
      · cases colon
      · cases digit
    simp only [List.length_append, List.length_replicate] at count
    have rest : 8 - front.length - back.length = n := by omega
    show readPieces (joined front ++ [':', ':'] ++ joined back) = some _
    rw [List.append_assoc, List.cons_append, List.cons_append, List.nil_append, readPieces, split]
    simp [piecesOf_joined fits.1.1, piecesOf_joined fits.2, plain, rest]
    omega
  · have none : splitGap (joined pieces) = none := by
      simpa [splitGap] using splitGap_joined_append pieces []
    show readPieces (joined pieces) = some pieces
    simp [readPieces, none, piecesOf_joined fits, count]

theorem mem_ipv6Text {pieces : List Nat} {c : Char} (member : c ∈ ipv6Text pieces) :
    c = ':' ∨ isHexDigit c = true := by
  unfold ipv6Text at member
  simp only at member
  split at member
  · simp only [List.mem_append, List.mem_cons, List.not_mem_nil, or_false, or_self] at member
    rcases member with (front | colon) | back
    · exact mem_joined front
    · exact .inl colon
    · exact mem_joined back
  · exact mem_joined member

theorem readBracketed_eq {cs host : List Char} (read : readBracketed cs = .ok host) :
    ∃ pieces, IsAddress pieces ∧ host = '[' :: ipv6Text pieces ++ [']'] := by
  unfold readBracketed at read
  split at read
  · cases read
  · split at read
    · rename_i pieces address
      cases read
      exact ⟨pieces, readPieces_isAddress address, rfl⟩
    · cases read

theorem readBracketed_ipv6Text {pieces : List Nat} (address : IsAddress pieces) :
    readBracketed (ipv6Text pieces ++ [']']) = .ok ('[' :: ipv6Text pieces ++ [']']) := by
  simp [readBracketed, readPieces_ipv6Text address]

end Writing

end TestImpact.Web.Host
