import TestImpact.Proofs.Json.Trees
import TestImpact.Proofs.Text.Pieces

namespace TestImpact.Json

structure Blanks where
  chars : List Char
  blank : ∀ c ∈ chars, isSpace c = true

def Blanks.empty : Blanks := ⟨[], nofun⟩

structure Padded where
  before : Blanks
  inner : List Char
  behind : Blanks

def Padded.chars (p : Padded) : List Char := p.before.chars ++ p.inner ++ p.behind.chars

def Padded.bare (cs : List Char) : Padded := ⟨.empty, cs, .empty⟩

structure Pair where
  key : Padded
  value : Padded

def Pair.chars (p : Pair) : List Char := p.key.chars ++ ':' :: p.value.chars

def enclosed (opener closer : Char) (space : Blanks) (parts : List (List Char)) : List Char :=
  opener :: (space.chars ++ [','].intercalate parts ++ [closer])

def listChars (space : Blanks) (items : List Padded) : List Char :=
  enclosed '[' ']' space (items.map Padded.chars)

def objectChars (space : Blanks) (members : List Pair) : List Char :=
  enclosed '\x7b' '\x7d' space (members.map Pair.chars)

section Numbers

def IsDigits (cs : List Char) : Prop := cs ≠ [] ∧ ∀ c ∈ cs, isDigit c = true

instance (cs : List Char) : Decidable (IsDigits cs) :=
  decidable_of_iff (cs ≠ [] ∧ cs.all isDigit = true) (by simp [IsDigits])

structure IsIntegral (cs : List Char) : Prop where
  digits : IsDigits cs
  zero : cs.head? = some '0' → cs = ['0']

inductive IsFraction : List Char → Prop
  | absent : IsFraction []
  | digits {ds : List Char} (digits : IsDigits ds) : IsFraction ('.' :: ds)

inductive IsExponent : List Char → Prop
  | absent : IsExponent []
  | digits {mark : Char} {sign ds : List Char} (marked : mark = 'e' ∨ mark = 'E')
      (signed : sign = [] ∨ sign = ['+'] ∨ sign = ['-']) (digits : IsDigits ds) :
      IsExponent (mark :: (sign ++ ds))

inductive IsMagnitude : List Char → Prop
  | parts {whole fraction exponent : List Char} (integral : IsIntegral whole)
      (behind : IsFraction fraction) (scaled : IsExponent exponent) :
      IsMagnitude (whole ++ (fraction ++ exponent))

inductive IsNumber : List Char → Prop
  | positive {cs : List Char} (size : IsMagnitude cs) : IsNumber cs
  | negative {cs : List Char} (size : IsMagnitude cs) : IsNumber ('-' :: cs)

end Numbers

/-- The characters behind the opening quote of a string, its closing quote the last, by pieces. -/
inductive EndsText : List Char → List Piece → Prop
  | quote : EndsText ['"'] []
  | char {c : Char} {cs : List Char} {pieces : List Piece} (quote : c ≠ '"')
      (backslash : c ≠ '\\') (control : ¬ c.toNat < 0x20) (rest : EndsText cs pieces) :
      EndsText (c :: cs) (.char c :: pieces)
  | escape {e c : Char} {cs : List Char} {pieces : List Piece} (simple : simpleEscape e = some c)
      (rest : EndsText cs pieces) : EndsText ('\\' :: e :: cs) (.escape c :: pieces)
  | unit {a b c d : Char} {n : Nat} {cs : List Char} {pieces : List Piece}
      (digits : hexUnit a b c d = some n) (rest : EndsText cs pieces) :
      EndsText ('\\' :: 'u' :: a :: b :: c :: d :: cs) (.unit n :: pieces)

inductive IsText : List Char → List Piece → Prop
  | quoted {cs : List Char} {pieces : List Piece} (rest : EndsText cs pieces) :
      IsText ('"' :: cs) pieces

inductive WellFormed : List Char → Prop
  | null : WellFormed ['n', 'u', 'l', 'l']
  | true : WellFormed ['t', 'r', 'u', 'e']
  | false : WellFormed ['f', 'a', 'l', 's', 'e']
  | number {cs : List Char} (number : IsNumber cs) : WellFormed cs
  | text {cs : List Char} {pieces : List Piece} (text : IsText cs pieces) : WellFormed cs
  | list (space : Blanks) {items : List Padded} (each : ∀ p ∈ items, WellFormed p.inner) :
      WellFormed (listChars space items)
  | object (space : Blanks) {members : List Pair}
      (keys : ∀ m ∈ members, ∃ pieces, IsText m.key.inner pieces)
      (values : ∀ m ∈ members, WellFormed m.value.inner) : WellFormed (objectChars space members)

/-- What the pieces of a string stand for. A surrogate stands for nothing by itself. -/
inductive Denotes : List Piece → List Char → Prop
  | nil : Denotes [] []
  | char {c : Char} {pieces : List Piece} {cs : List Char} (rest : Denotes pieces cs) :
      Denotes (.char c :: pieces) (c :: cs)
  | escape {c : Char} {pieces : List Piece} {cs : List Char} (rest : Denotes pieces cs) :
      Denotes (.escape c :: pieces) (c :: cs)
  | unit {n : Nat} {pieces : List Piece} {cs : List Char} (low : isLow n = false)
      (high : isHigh n = false) (rest : Denotes pieces cs) :
      Denotes (.unit n :: pieces) (Char.ofNat n :: cs)
  | pair {n m : Nat} {pieces : List Piece} {cs : List Char} (high : isHigh n = true)
      (low : isLow m = true) (rest : Denotes pieces cs) :
      Denotes (.unit n :: .unit m :: pieces) (pairedChar n m :: cs)

section Escapes

theorem EndsText.written (cs : List Char) :
    EndsText (cs.flatMap escaped ++ ['"']) (cs.map pieceOf) := by
  induction cs with
  | nil => exact .quote
  | cons c cs ih =>
    rw [List.flatMap_cons, List.append_assoc, List.map_cons, pieceOf]
    by_cases named : c ∈ ['"', '\\', '\n', '\r', '\t', '\x08', '\x0c']
    · rw [if_pos named]
      simp only [List.mem_cons, List.not_mem_nil, or_false] at named
      rcases named with rfl | rfl | rfl | rfl | rfl | rfl | rfl <;> exact .escape rfl ih
    · rw [if_neg named]
      simp only [List.mem_cons, List.not_mem_nil, or_false, not_or] at named
      by_cases control : c.toNat < 0x20
      · simp only [escaped, named, control, if_true, if_false]
        exact .unit (hexUnit_of_control control) ih
      · simp only [escaped, named, control, if_false]
        exact .char named.1 named.2.1 control ih

theorem IsText.written (s : String) : IsText (textChars s) (s.toList.map pieceOf) :=
  .quoted (.written s.toList)

theorem Denotes.written (cs : List Char) : Denotes (cs.map pieceOf) cs := by
  induction cs with
  | nil => exact .nil
  | cons c cs ih =>
    rw [List.map_cons, pieceOf]
    split
    · exact .escape ih
    · split
      · rename_i control
        have low : isLow c.toNat = false := by simp [isLow]; omega
        have high : isHigh c.toNat = false := by simp [isHigh]; omega
        have unit := Denotes.unit low high ih
        rwa [Char.ofNat_toNat] at unit
      · exact .char ih

end Escapes

section Scanning

variable {rest : Source}

theorem IsDigits.run {ds : List Char} (digits : IsDigits ds) :
    ∃ d more, ∀ {rest : Source}, digitRun rest = ([], rest) →
      digitRun (ds.map some ++ rest) = (d :: more, rest) := by
  obtain ⟨d, more, rfl⟩ := List.exists_cons_of_ne_nil digits.1
  exact ⟨_, _, digitRun_digits digits.2⟩

theorem digitRun_sign {c : Char} (other : isDigit c = false) (rest : Source) :
    digitRun (some c :: rest) = ([], some c :: rest) := by
  simp [digitRun, other]

theorem IsExponent.stops {cs : List Char} (scaled : IsExponent cs) (ends : rest.EndsNumber) :
    digitRun (cs.map some ++ rest) = ([], cs.map some ++ rest) := by
  cases scaled with
  | absent => exact digitRun_of_ends ends
  | digits marked => rcases marked with rfl | rfl <;> exact digitRun_sign rfl _

theorem IsFraction.stops {cs : List Char} (behind : IsFraction cs)
    (stops : digitRun rest = ([], rest)) :
    digitRun (cs.map some ++ rest) = ([], cs.map some ++ rest) := by
  cases behind with
  | absent => exact stops
  | digits => exact digitRun_sign rfl _

theorem IsExponent.read {cs : List Char} (scaled : IsExponent cs) (negative : Bool)
    (whole fraction : List Nat) : ∃ n, ∀ {rest : Source}, rest.EndsNumber →
      readExponent negative whole fraction (cs.map some ++ rest) = (.complete n, rest) := by
  cases scaled with
  | absent => exact ⟨_, readExponent_of_ends negative whole fraction⟩
  | @digits mark sign ds marked signed digits =>
    obtain ⟨d, more, run⟩ := digits.run
    let scaled down : Numeral := ⟨negative, whole, fraction, some (down, d :: more)⟩
    rcases signed with rfl | rfl | rfl
    · refine ⟨scaled false, fun ends => ?_⟩
      -- Without a sign the first digit stands where the sign is looked for.
      obtain ⟨c, cs, rfl⟩ := List.exists_cons_of_ne_nil digits.1
      have digit := digits.2 c List.mem_cons_self
      have plus : c ≠ '+' := by rintro rfl; cases digit
      have minus : c ≠ '-' := by rintro rfl; cases digit
      have run := run (digitRun_of_ends ends)
      rw [List.map_cons, List.cons_append] at run
      simp [readExponent, marked, plus, minus, run, scaled]
    · exact ⟨scaled false, fun ends => by
        simp [readExponent, marked, run (digitRun_of_ends ends), scaled]⟩
    · exact ⟨scaled true, fun ends => by
        simp [readExponent, marked, run (digitRun_of_ends ends), scaled]⟩

theorem IsFraction.read {fraction exponent : List Char} (behind : IsFraction fraction)
    (scaled : IsExponent exponent) (negative : Bool) (whole : List Nat) :
    ∃ n, ∀ {rest : Source}, rest.EndsNumber →
      readFraction negative whole (fraction.map some ++ (exponent.map some ++ rest)) =
        (.complete n, rest) := by
  cases behind with
  | absent =>
    obtain ⟨n, read⟩ := scaled.read negative whole []
    refine ⟨n, fun {rest} ends => Eq.trans ?_ (read ends)⟩
    cases scaled with
    | absent =>
      rw [List.map_nil, List.nil_append, List.nil_append, readFraction_of_ends negative whole ends,
        readExponent_of_ends negative whole [] ends]
    | digits marked => rcases marked with rfl | rfl <;> simp [readFraction]
  | @digits ds digits =>
    obtain ⟨d, more, run⟩ := digits.run
    obtain ⟨n, read⟩ := scaled.read negative whole (d :: more)
    refine ⟨n, fun ends => ?_⟩
    simp only [List.map_cons, List.cons_append, readFraction, if_true, run (scaled.stops ends),
      read ends]

theorem IsMagnitude.read {cs : List Char} (size : IsMagnitude cs) (negative : Bool) :
    ∃ n, ∀ {rest : Source}, rest.EndsNumber →
      NumberToken.read negative (cs.map some ++ rest) = (.complete n, rest) := by
  obtain @⟨whole, fraction, exponent, integral, behind, scaled⟩ := size
  obtain ⟨c, cs, rfl⟩ := List.exists_cons_of_ne_nil integral.digits.1
  obtain ⟨n, read⟩ := behind.read scaled negative ((c :: cs).map fun c => c.toNat - '0'.toNat)
  refine ⟨n, fun ends => ?_⟩
  have read := read ends
  rw [List.map_append, List.map_append, List.append_assoc, List.append_assoc, NumberToken.read,
    digitRun_digits integral.digits.2 (behind.stops (scaled.stops ends))]
  by_cases zero : c = '0'
  · subst zero
    cases List.cons.inj (integral.zero rfl) |>.2
    exact read
  · have positive : c.toNat - '0'.toNat ≠ 0 := by
      have digit := integral.digits.2 c List.mem_cons_self
      have least : '0'.toNat ≤ c.toNat := by
        simp only [isDigit, Bool.and_eq_true, decide_eq_true_eq] at digit
        exact digit.1
      have other : c.toNat ≠ '0'.toNat := fun same => zero (Char.toNat_inj.mp same)
      omega
    obtain ⟨d, same⟩ := Nat.exists_eq_succ_of_ne_zero positive
    rw [List.map_cons, same] at read ⊢
    exact read

theorem IsMagnitude.digit {cs : List Char} (size : IsMagnitude cs) :
    ∃ c more, cs = c :: more ∧ isDigit c = true := by
  obtain @⟨whole, fraction, exponent, integral, behind, scaled⟩ := size
  obtain ⟨c, cs, rfl⟩ := List.exists_cons_of_ne_nil integral.digits.1
  exact ⟨c, _, rfl, integral.digits.2 c List.mem_cons_self⟩

theorem IsNumber.scan {cs : List Char} (number : IsNumber cs) :
    ∃ n, ∀ {rest : Source}, rest.EndsNumber →
      Token.scan (cs.map some ++ rest) = .number (.complete n) :: Token.scan rest := by
  cases number with
  | positive size =>
    obtain ⟨n, read⟩ := size.read false
    obtain ⟨c, more, rfl, digit⟩ := size.digit
    refine ⟨n, fun ends => ?_⟩
    have read := read ends
    rw [List.map_cons, List.cons_append] at read ⊢
    rw [scan_digit digit, read]
  | negative size =>
    obtain ⟨n, read⟩ := size.read true
    exact ⟨n, fun ends => by rw [List.map_cons, List.cons_append, scan_minus, read ends]⟩

theorem EndsText.read {cs : List Char} {pieces : List Piece} (text : EndsText cs pieces) :
    TextToken.read (cs.map some ++ rest) = (⟨pieces, .closed⟩, rest) := by
  induction text with
  | quote => exact read_quote rest
  | char quote backslash control text ih =>
    rw [List.map_cons, List.cons_append, TextToken.read.eq_def]
    simp [quote, backslash, control, ih, TextToken.prepend]
  | escape simple text ih =>
    rw [List.map_cons, List.map_cons, List.cons_append, List.cons_append, read_escape simple, ih]
    rfl
  | unit digits text ih =>
    simp only [List.map_cons, List.cons_append]
    rw [TextToken.read.eq_def]
    simp [digits, ih, TextToken.prepend]

theorem IsText.scan {cs : List Char} {pieces : List Piece} (text : IsText cs pieces) :
    Token.scan (cs.map some ++ rest) = .text ⟨pieces, .closed⟩ :: Token.scan rest := by
  obtain ⟨text⟩ := text
  have quote : isSpace '"' = false := by decide
  have mark : punctuation '"' = none := by decide
  rw [List.map_cons, List.cons_append, Token.scan, if_neg (by simp [quote])]
  simp only [Token.read, mark, if_true, text.read]

theorem Denotes.text {pieces : List Piece} {cs : List Char} (denotes : Denotes pieces cs) :
    (TextToken.mk pieces .closed).text = .ok (String.ofList cs) := by
  have chars : charsOfPieces .closed pieces = .ok (cs.map some) := by
    induction denotes with
    | nil => rfl
    | char rest ih => rw [charsOfPieces, ih]; rfl
    | escape rest ih => rw [charsOfPieces, ih]; rfl
    | unit low high rest ih =>
      rw [charsOfPieces.eq_def]
      simp [low, high, ih]
    | @pair n m pieces cs high low rest ih =>
      have other : isLow n = false := by
        simp only [isHigh, isLow, Bool.and_eq_true, Bool.and_eq_false_iff, decide_eq_true_eq,
          decide_eq_false_iff_not] at high ⊢
        omega
      rw [charsOfPieces.eq_def]
      simp [other, high, low, ih]
  simp [TextToken.text, chars, List.filterMap_map]

end Scanning

end TestImpact.Json
