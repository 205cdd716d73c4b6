namespace TestImpact.Json

/-- The text of a document: its characters, with `none` for a byte that belongs to none. -/
abbrev Source := List (Option Char)

def Source.ofString (s : String) : Source := s.toList.map some

inductive Piece
  | char (c : Char)
  | stray
  | escape (c : Char)
  /-- A code unit written as four hexadecimal digits. -/
  | unit (n : Nat)
  deriving DecidableEq, Repr

inductive TextStop
  | closed
  | atEnd
  | control
  | badEscape
  | badHex
  deriving DecidableEq, Repr

structure TextToken where
  pieces : List Piece
  stop : TextStop
  deriving DecidableEq, Repr

/-- A number by its parts. An empty fraction is one that is not written. -/
structure Numeral where
  negative : Bool
  whole : List Nat
  fraction : List Nat
  exponent : Option (Bool × List Nat)
  deriving DecidableEq, Repr

inductive NumberToken
  | complete (n : Numeral)
  /-- A digit is missing, at the end of the text or before another character, or a zero stands
      before a digit. -/
  | broken (atEnd : Bool)
  deriving DecidableEq, Repr

inductive Word
  | null
  | bool (b : Bool)
  deriving DecidableEq, Repr

inductive Token
  | listOpen
  | listClose
  | objectOpen
  | objectClose
  | comma
  | colon
  | null
  | bool (b : Bool)
  | misspelt (word : Word) (atEnd : Bool)
  | number (n : NumberToken)
  | text (t : TextToken)
  | stray
  deriving DecidableEq, Repr

def TextToken.prepend (p : Piece) (t : TextToken × Source) : TextToken × Source :=
  (⟨p :: t.1.pieces, t.1.stop⟩, t.2)

def byteSize : Source → Nat
  | [] => 0
  | some c :: rest => c.utf8Size + byteSize rest
  | none :: rest => 1 + byteSize rest

def hexValue (c : Char) : Option Nat :=
  if '0' ≤ c ∧ c ≤ '9' then some (c.toNat - '0'.toNat)
  else if 'a' ≤ c ∧ c ≤ 'f' then some (c.toNat - 'a'.toNat + 10)
  else if 'A' ≤ c ∧ c ≤ 'F' then some (c.toNat - 'A'.toNat + 10)
  else none

def hexUnit (a b c d : Option Char) : Option Nat := do
  let a ← a.bind hexValue
  let b ← b.bind hexValue
  let c ← c.bind hexValue
  let d ← d.bind hexValue
  return ((a * 16 + b) * 16 + c) * 16 + d

def simpleEscape (c : Char) : Option Char :=
  if c = '"' then some '"'
  else if c = '\\' then some '\\'
  else if c = '/' then some '/'
  else if c = 'b' then some '\x08'
  else if c = 'f' then some '\x0c'
  else if c = 'n' then some '\n'
  else if c = 'r' then some '\r'
  else if c = 't' then some '\t'
  else none

def TextToken.read : Source → TextToken × Source
  | [] => (⟨[], .atEnd⟩, [])
  | none :: rest => prepend .stray (read rest)
  | some c :: rest =>
    if c = '"' then (⟨[], .closed⟩, rest)
    else if c = '\\' then
      match rest with
      | [] => (⟨[], .atEnd⟩, [])
      | none :: more => (⟨[], .badEscape⟩, more)
      | some e :: more =>
        if e = 'u' then
          match more with
          | a :: b :: c :: d :: past =>
            match hexUnit a b c d with
            | some n => prepend (.unit n) (read past)
            | none => (⟨[], .badHex⟩, past)
          | short =>
            if byteSize short < 4 then (⟨[], .atEnd⟩, []) else (⟨[], .badHex⟩, [])
        else
          match simpleEscape e with
          | some c => prepend (.escape c) (read more)
          | none => (⟨[], .badEscape⟩, more)
    else if c.toNat < 0x20 then (⟨[], .control⟩, rest)
    else prepend (.char c) (read rest)

def isDigit (c : Char) : Bool := '0' ≤ c && c ≤ '9'

def digitRun : Source → List Nat × Source
  | some c :: rest =>
    if isDigit c then ((c.toNat - '0'.toNat) :: (digitRun rest).1, (digitRun rest).2)
    else ([], some c :: rest)
  | s => ([], s)

def readExponent (negative : Bool) (whole fraction : List Nat) (s : Source) :
    NumberToken × Source :=
  match s with
  | some c :: rest =>
    if c = 'e' ∨ c = 'E' then
      let (down, behind) := match rest with
        | some '+' :: more => (false, more)
        | some '-' :: more => (true, more)
        | more => (false, more)
      match digitRun behind with
      | ([], past) => (.broken past.isEmpty, past)
      | (digits, past) => (.complete ⟨negative, whole, fraction, some (down, digits)⟩, past)
    else (.complete ⟨negative, whole, fraction, none⟩, s)
  | s => (.complete ⟨negative, whole, fraction, none⟩, s)

def readFraction (negative : Bool) (whole : List Nat) (s : Source) : NumberToken × Source :=
  match s with
  | some c :: rest =>
    if c = '.' then
      match digitRun rest with
      | ([], past) => (.broken past.isEmpty, past)
      | (fraction, past) => readExponent negative whole fraction past
    else readExponent negative whole [] s
  | s => readExponent negative whole [] s

def NumberToken.read (negative : Bool) (s : Source) : NumberToken × Source :=
  match digitRun s with
  | ([], past) => (.broken past.isEmpty, past)
  | (0 :: _ :: _, past) => (.broken false, past)
  | (whole, past) => readFraction negative whole past

def Word.token : Word → Token
  | null => .null
  | bool b => .bool b

def readWord (word : Word) : List Char → Source → Token × Source
  | [], s => (word.token, s)
  | _ :: _, [] => (.misspelt word true, [])
  | c :: cs, u :: rest =>
    if u = some c then readWord word cs rest else (.misspelt word false, rest)

def isSpace (c : Char) : Bool := c = ' ' || c = '\t' || c = '\n' || c = '\r'

def punctuation (c : Char) : Option Token :=
  if c = '[' then some .listOpen
  else if c = ']' then some .listClose
  else if c = '\x7b' then some .objectOpen
  else if c = '\x7d' then some .objectClose
  else if c = ',' then some .comma
  else if c = ':' then some .colon
  else none

def Token.read (c : Char) (rest : Source) : Token × Source :=
  match punctuation c with
  | some t => (t, rest)
  | none =>
    if c = '"' then
      let (t, past) := TextToken.read rest
      (.text t, past)
    else if c = '-' then
      let (n, past) := NumberToken.read true rest
      (.number n, past)
    else if isDigit c then
      let (n, past) := NumberToken.read false (some c :: rest)
      (.number n, past)
    else if c = 'n' then readWord .null ['u', 'l', 'l'] rest
    else if c = 't' then readWord (.bool true) ['r', 'u', 'e'] rest
    else if c = 'f' then readWord (.bool false) ['a', 'l', 's', 'e'] rest
    else (.stray, rest)

theorem TextToken.length_read (s : Source) : (TextToken.read s).2.length ≤ s.length := by
  fun_induction TextToken.read s <;> simp_all [TextToken.prepend] <;> omega

theorem length_digitRun (s : Source) : (digitRun s).2.length ≤ s.length := by
  fun_induction digitRun s <;> simp_all
  omega

theorem digitRun_ne_nil {c : Char} (h : isDigit c = true) (rest : Source) :
    (digitRun (some c :: rest)).2.length ≤ rest.length := by
  simp only [digitRun, h, if_true]
  exact length_digitRun rest

theorem length_readExponent (negative : Bool) (whole fraction : List Nat) (s : Source) :
    (readExponent negative whole fraction s).2.length ≤ s.length := by
  unfold readExponent
  split
  · rename_i c rest
    split
    · split
      rename_i down behind shape
      have shorter : behind.length ≤ rest.length := by
        split at shape <;> simp only [Prod.mk.injEq] at shape <;> simp [← shape.2]
      have := length_digitRun behind
      split <;> rename_i run <;> rw [run] at this <;> simp at this ⊢ <;> omega
    · exact Nat.le_refl _
  · exact Nat.le_refl _

theorem length_readFraction (negative : Bool) (whole : List Nat) (s : Source) :
    (readFraction negative whole s).2.length ≤ s.length := by
  unfold readFraction
  split
  · rename_i c rest
    split
    · have := length_digitRun rest
      split <;> rename_i run <;> rw [run] at this
      · simp at this ⊢; omega
      · rename_i fraction past _
        have shorter := length_readExponent negative whole fraction past
        simp only [List.length_cons] at *
        omega
    · exact length_readExponent ..
  · exact length_readExponent ..

theorem NumberToken.length_read (negative : Bool) (s : Source) :
    (NumberToken.read negative s).2.length ≤ (digitRun s).2.length := by
  unfold NumberToken.read
  split <;> rename_i run <;> rewrite [run]
  · exact Nat.le_refl _
  · exact Nat.le_refl _
  · exact length_readFraction ..

theorem length_readWord (word : Word) (cs : List Char) (s : Source) :
    (readWord word cs s).2.length ≤ s.length := by
  fun_induction readWord word cs s <;> simp_all
  omega

theorem Token.length_read (c : Char) (rest : Source) :
    (Token.read c rest).2.length ≤ rest.length := by
  unfold Token.read
  split
  · exact Nat.le_refl _
  · split
    · exact TextToken.length_read rest
    · split
      · exact Nat.le_trans (NumberToken.length_read true rest) (length_digitRun rest)
      · split
        · rename_i digit
          exact Nat.le_trans (NumberToken.length_read ..) (digitRun_ne_nil digit rest)
        · split
          · exact length_readWord ..
          · split
            · exact length_readWord ..
            · split
              · exact length_readWord ..
              · exact Nat.le_refl _

def Token.scan : Source → List Token
  | [] => []
  | none :: rest => .stray :: scan rest
  | some c :: rest =>
    if isSpace c then scan rest
    else (Token.read c rest).1 :: scan (Token.read c rest).2
  termination_by s => s.length
  decreasing_by
    · simp
    · simp
    · have := Token.length_read c rest
      simp only [List.length_cons]
      omega

end TestImpact.Json
