import TestImpact.Json.Reader
import TestImpact.Proofs.Except

namespace TestImpact.Json

section Blanks

theorem scan_blank {c : Char} (blank : isSpace c = true) (rest : Source) :
    Token.scan (some c :: rest) = Token.scan rest := by
  rw [Token.scan, if_pos blank]

theorem scan_blanks {cs : List Char} (blank : ∀ c ∈ cs, isSpace c = true) (rest : Source) :
    Token.scan (cs.map some ++ rest) = Token.scan rest := by
  induction cs with
  | nil => rfl
  | cons c cs ih =>
    rw [List.map_cons, List.cons_append, scan_blank (blank c (by simp)),
      ih fun d member => blank d (by simp [member])]

theorem scan_punctuation {c : Char} {t : Token} (mark : punctuation c = some t) (rest : Source) :
    Token.scan (some c :: rest) = t :: Token.scan rest := by
  have ink : isSpace c = false := by
    cases blank : isSpace c with
    | false => rfl
    | true =>
      simp only [isSpace, Bool.or_eq_true, decide_eq_true_eq] at blank
      rcases blank with ((rfl | rfl) | rfl) | rfl <;> cases mark
  rw [Token.scan, if_neg (by simp [ink])]
  simp only [Token.read, mark]

end Blanks

section Texts

def pieceOf (c : Char) : Piece :=
  if c ∈ ['"', '\\', '\n', '\r', '\t', '\x08', '\x0c'] then .escape c
  else if c.toNat < 0x20 then .unit c.toNat
  else .char c

def TextToken.ofString (s : String) : TextToken := ⟨s.toList.map pieceOf, .closed⟩

theorem hexUnit_of_control {n : Nat} (control : n < 32) :
    hexUnit (some '0') (some '0') (some (hexDigit (n / 16))) (some (hexDigit n)) = some n := by
  have all : ∀ m : Fin 32, hexUnit (some '0') (some '0') (some (hexDigit (m.val / 16)))
    (some (hexDigit m.val)) = some m.val := by decide
  exact all ⟨n, control⟩

theorem read_quote (rest : Source) : TextToken.read (some '"' :: rest) = (⟨[], .closed⟩, rest) := by
  rw [TextToken.read.eq_def]
  simp

theorem read_escape {c e : Char} (simple : simpleEscape e = some c) (rest : Source) :
    TextToken.read (some '\\' :: some e :: rest) =
      TextToken.prepend (.escape c) (TextToken.read rest) := by
  have other : e ≠ 'u' := by
    rintro rfl
    cases simple
  rw [TextToken.read.eq_def]
  simp [simple, other]

theorem read_escaped (c : Char) (rest : Source) :
    TextToken.read ((escaped c).map some ++ rest) =
      TextToken.prepend (pieceOf c) (TextToken.read rest) := by
  by_cases named : c ∈ ['"', '\\', '\n', '\r', '\t', '\x08', '\x0c']
  · rw [pieceOf, if_pos named]
    simp only [List.mem_cons, List.not_mem_nil, or_false] at named
    rcases named with rfl | rfl | rfl | rfl | rfl | rfl | rfl <;> exact read_escape rfl rest
  · rw [pieceOf, if_neg named]
    simp only [List.mem_cons, List.not_mem_nil, or_false, not_or] at named
    by_cases control : c.toNat < 0x20
    · have unit := hexUnit_of_control control
      simp only [escaped, named, control, if_true, if_false, List.map_cons, List.map_nil,
        List.cons_append, List.nil_append]
      rw [TextToken.read.eq_def]
      simp [unit]
    · simp only [escaped, named, control, if_false, List.map_cons, List.map_nil, List.cons_append,
        List.nil_append]
      rw [TextToken.read.eq_def]
      simp [named, control]

theorem read_written (cs : List Char) (rest : Source) :
    TextToken.read ((cs.flatMap escaped).map some ++ some '"' :: rest) =
      (⟨cs.map pieceOf, .closed⟩, rest) := by
  induction cs with
  | nil => exact read_quote rest
  | cons c cs ih =>
    rw [List.flatMap_cons, List.map_append, List.append_assoc, read_escaped, ih]
    rfl

theorem scan_text (s : String) (rest : Source) :
    Token.scan ((textChars s).map some ++ rest) = .text (.ofString s) :: Token.scan rest := by
  have split : (textChars s).map some ++ rest =
      some '"' :: ((s.toList.flatMap escaped).map some ++ some '"' :: rest) := by
    simp [textChars]
  have quote : isSpace '"' = false := by decide
  have mark : punctuation '"' = none := by decide
  rw [split, Token.scan, if_neg (by simp [quote])]
  simp only [Token.read, mark, if_true, read_written]
  rfl

theorem charsOfPieces_cons (c : Char) (rest : List Piece) (stop : TextStop) :
    charsOfPieces stop (pieceOf c :: rest) = (charsOfPieces stop rest).map (some c :: ·) := by
  unfold pieceOf
  split
  · rw [charsOfPieces.eq_def]
    rfl
  · split
    · rename_i control
      have notLow : isLow c.toNat = false := by simp [isLow]; omega
      have notHigh : isHigh c.toNat = false := by simp [isHigh]; omega
      rw [charsOfPieces.eq_def]
      simp only [notLow, notHigh, Char.ofNat_toNat]
      rfl
    · rw [charsOfPieces.eq_def]
      rfl

@[simp] theorem text_ofString (s : String) : (TextToken.ofString s).text = .ok s := by
  have chars (cs : List Char) :
      charsOfPieces .closed (cs.map pieceOf) = .ok (cs.map some) := by
    induction cs with
    | nil => rfl
    | cons c cs ih => rw [List.map_cons, charsOfPieces_cons, ih]; rfl
  have whole : (s.toList.map some).all Option.isSome = true := by simp
  have same : (s.toList.map some).filterMap id = s.toList := by simp [List.filterMap_map]
  rw [TextToken.text, TextToken.ofString, chars]
  simp only [ok_bind, whole, if_true, same, String.ofList_toList]
  rfl

end Texts

section Numbers

def Source.EndsNumber : Source → Prop
  | some c :: _ => isDigit c = false ∧ c ≠ '.' ∧ c ≠ 'e' ∧ c ≠ 'E'
  | _ => True

theorem endsNumber_of_punctuation {c : Char} {t : Token} (mark : punctuation c = some t)
    (rest : Source) : Source.EndsNumber (some c :: rest) := by
  have marks : c ∈ ['[', ']', '\x7b', '\x7d', ',', ':'] := by
    apply Decidable.byContradiction
    intro other
    simp only [List.mem_cons, List.not_mem_nil, or_false, not_or] at other
    simp [punctuation, other] at mark
  simp only [List.mem_cons, List.not_mem_nil, or_false] at marks
  rcases marks with rfl | rfl | rfl | rfl | rfl | rfl <;>
    exact ⟨by decide, by decide, by decide, by decide⟩

theorem endsNumber_of_blanks {cs : List Char} (blank : ∀ c ∈ cs, isSpace c = true)
    {rest : Source} (ends : rest.EndsNumber) : Source.EndsNumber (cs.map some ++ rest) := by
  cases cs with
  | nil => exact ends
  | cons c cs =>
    have first := blank c (by simp)
    simp only [isSpace, Bool.or_eq_true, decide_eq_true_eq] at first
    rcases first with ((rfl | rfl) | rfl) | rfl <;>
      exact ⟨by decide, by decide, by decide, by decide⟩

def digitsOf (k : Nat) : List Nat := (Nat.toDigits 10 k).map fun c => c.toNat - '0'.toNat

theorem digitsOf_of_lt {k : Nat} (single : k < 10) : digitsOf k = [k] := by
  have all : ∀ m : Fin 10, m.val.digitChar.toNat - '0'.toNat = m.val := by decide
  rw [digitsOf, Nat.toDigits_of_lt_base single, List.map_singleton]
  exact congrArg (fun n => [n]) (all ⟨k, single⟩)

theorem digitsOf_of_le {k : Nat} (more : 10 ≤ k) :
    digitsOf k = digitsOf (k / 10) ++ [k % 10] := by
  have last := digitsOf_of_lt (Nat.mod_lt k (by decide : 10 > 0))
  rw [digitsOf, Nat.toDigits_of_lt_base (Nat.mod_lt k (by decide : 10 > 0))] at last
  have split := Nat.toDigits_eq_if (n := k) (by decide : 1 < 10)
  rw [if_neg (by omega)] at split
  rw [digitsOf, split, List.map_append, last]
  rfl

/-- A decimal has no zero in front, save zero itself. -/
theorem digitsOf_head (k : Nat) : digitsOf k = [k] ∨
    ∃ d ds, digitsOf k = (d + 1) :: ds := by
  induction k using Nat.strongRecOn with
  | ind k ih =>
    by_cases single : k < 10
    · exact .inl (digitsOf_of_lt single)
    · rw [digitsOf_of_le (by omega)]
      right
      -- The digits in front are those of the quotient, which is no zero here.
      rcases ih (k / 10) (by omega) with same | ⟨d, ds, same⟩
      · exact ⟨k / 10 - 1, [k % 10], by rw [same]; simp; omega⟩
      · exact ⟨d, ds ++ [k % 10], by rw [same]; rfl⟩

theorem accumulate_concat {s n d : Nat} {ds : List Nat} (whole : accumulate s ds = (n, 0))
    (fits : n * 10 + d < UInt64.size) : accumulate s (ds ++ [d]) = (n * 10 + d, 0) := by
  induction ds generalizing s with
  | nil =>
    cases whole
    simp [accumulate, fits]
  | cons e ds ih =>
    rw [accumulate] at whole
    split at whole
    · rename_i fits'
      rw [List.cons_append, accumulate, if_pos fits']
      exact ih whole
    · cases whole

theorem accumulate_digitsOf {k : Nat} (fits : k < UInt64.size) :
    accumulate 0 (digitsOf k) = (k, 0) := by
  induction k using Nat.strongRecOn with
  | ind k ih =>
    by_cases single : k < 10
    · simp [digitsOf_of_lt single, accumulate, fits]
    · have split : k / 10 * 10 + k % 10 = k := by omega
      rw [digitsOf_of_le (by omega), accumulate_concat (ih (k / 10) (by omega) (by omega))
        (by omega), split]

theorem isDigit_iff (c : Char) : isDigit c = c.isDigit := by
  simp only [isDigit, Char.isDigit, ge_iff_le]
  rfl

theorem digitRun_of_ends {rest : Source} (ends : rest.EndsNumber) : digitRun rest = ([], rest) := by
  rcases rest with _ | ⟨_ | c, rest⟩
  · rfl
  · rfl
  · simp [digitRun, ends.1]

theorem digitRun_digits {cs : List Char} (digits : ∀ c ∈ cs, isDigit c = true) {rest : Source}
    (ends : digitRun rest = ([], rest)) :
    digitRun (cs.map some ++ rest) = (cs.map fun c => c.toNat - '0'.toNat, rest) := by
  induction cs with
  | nil => exact ends
  | cons c cs ih =>
    have first := digits c (by simp)
    have more := ih fun d member => digits d (by simp [member])
    simp [digitRun, first, more]

theorem readExponent_of_ends (negative : Bool) (whole fraction : List Nat) {rest : Source}
    (ends : rest.EndsNumber) : readExponent negative whole fraction rest =
      (.complete ⟨negative, whole, fraction, none⟩, rest) := by
  rcases rest with _ | ⟨_ | c, rest⟩
  · rfl
  · rfl
  · simp [readExponent, ends.2.2]

theorem readFraction_of_ends (negative : Bool) (whole : List Nat) {rest : Source}
    (ends : rest.EndsNumber) : readFraction negative whole rest =
      (.complete ⟨negative, whole, [], none⟩, rest) := by
  rcases rest with _ | ⟨_ | c, rest⟩
  · rfl
  · rfl
  · simp only [readFraction, ends.2.1, if_false]
    exact readExponent_of_ends negative whole [] ends

theorem isDigit_of_mem_digits {k : Nat} {c : Char} (member : c ∈ Nat.toDigits 10 k) :
    isDigit c = true := by
  rw [isDigit_iff]
  exact Nat.isDigit_of_mem_toDigits (by decide) (by decide) member

theorem read_digits (negative : Bool) (k : Nat) {rest : Source} (ends : rest.EndsNumber) :
    NumberToken.read negative ((Nat.toDigits 10 k).map some ++ rest) =
      (.complete ⟨negative, digitsOf k, [], none⟩, rest) := by
  have run : digitRun ((Nat.toDigits 10 k).map some ++ rest) = (digitsOf k, rest) :=
    digitRun_digits (fun c member => isDigit_of_mem_digits member) (digitRun_of_ends ends)
  have fraction := readFraction_of_ends negative (digitsOf k) ends
  rw [NumberToken.read, run]
  rcases digitsOf_head k with single | ⟨d, ds, many⟩
  · rw [single] at fraction ⊢
    cases k <;> exact fraction
  · rw [many] at fraction ⊢
    exact fraction

theorem scan_digit {c : Char} (digit : isDigit c = true) (rest : Source) :
    Token.scan (some c :: rest) = .number (NumberToken.read false (some c :: rest)).1 ::
      Token.scan (NumberToken.read false (some c :: rest)).2 := by
  -- A digit is none of the signs that are tried first.
  have apart {d : Char} (sign : isDigit d = false) : c ≠ d := by
    rintro rfl
    cases digit.symm.trans sign
  have ink : isSpace c = false := by
    simp only [isSpace, Bool.or_eq_false_iff, decide_eq_false_iff_not]
    exact ⟨⟨⟨apart rfl, apart rfl⟩, apart rfl⟩, apart rfl⟩
  have mark : punctuation c = none := by
    cases mark : punctuation c with
    | none => rfl
    | some t => cases digit.symm.trans (endsNumber_of_punctuation mark []).1
  have quote : c ≠ '"' := apart rfl
  have minus : c ≠ '-' := apart rfl
  rw [Token.scan, if_neg (by simp [ink])]
  simp only [Token.read, mark, quote, minus, digit, if_true, if_false]

theorem scan_minus (rest : Source) :
    Token.scan (some '-' :: rest) = .number (NumberToken.read true rest).1 ::
      Token.scan (NumberToken.read true rest).2 := by
  have ink : isSpace '-' = false := by decide
  have mark : punctuation '-' = none := by decide
  have other : ¬ '-' = '"' := by decide
  rw [Token.scan, if_neg (by simp [ink])]
  simp only [Token.read, mark, other, if_true, if_false]

def wholeToken (n : Int) : NumberToken :=
  .complete ⟨decide (n < 0), digitsOf n.natAbs, [], none⟩

theorem scan_whole (n : Int) {rest : Source} (ends : rest.EndsNumber) :
    Token.scan ((Number.integer n).text.toList.map some ++ rest) =
      .number (wholeToken n) :: Token.scan rest := by
  cases n with
  | ofNat k =>
    have text : (Number.integer (.ofNat k)).text.toList = Nat.toDigits 10 k := Nat.toList_repr
    have read := read_digits false k ends
    rw [text]
    cases digits : Nat.toDigits 10 k with
    | nil => exact absurd digits Nat.toDigits_ne_nil
    | cons c cs =>
      have digit : isDigit c = true := isDigit_of_mem_digits (k := k) (by simp [digits])
      rw [digits, List.map_cons, List.cons_append] at read
      rw [List.map_cons, List.cons_append, scan_digit digit, read]
      rfl
  | negSucc k =>
    have text : (Number.integer (.negSucc k)).text.toList = '-' :: Nat.toDigits 10 (k + 1) := by
      show ("-" ++ Nat.repr (k + 1)).toList = _
      rw [String.toList_append, Nat.toList_repr]
      rfl
    have sign : decide (Int.negSucc k < 0) = true := decide_eq_true (Int.negSucc_lt_zero k)
    rw [text, List.map_cons, List.cons_append, scan_minus, read_digits true (k + 1) ends,
      wholeToken, sign]
    rfl

@[simp] theorem number_wholeToken (n : UInt64) :
    (wholeToken n.toNat).number = .ok (.integer n.toNat) := by
  have fits : n.toNat < UInt64.size := n.toNat_lt
  have positive : ¬ (n.toNat : Int) < 0 := by omega
  simp [wholeToken, NumberToken.number, Numeral.number, accumulate, accumulate_digitsOf fits,
    positive]

end Numbers

end TestImpact.Json
