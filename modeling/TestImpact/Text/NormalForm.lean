import TestImpact.Text.CombiningClass
import TestImpact.Text.Composite

/-!
The composed normal form of texts in letters without capitals: letters are taken apart, marks are
put in the order of their classes, and what has a composite is put together again.
-/

namespace TestImpact.Text

/-- The syllables of Korean are numbered by their parts: an initial, a vowel, and perhaps a
    final. -/
def firstSyllable : Nat := 0xAC00
def syllableCount : Nat := 11172
def firstInitial : Nat := 0x1100
def initialCount : Nat := 19
def firstVowel : Nat := 0x1161
def vowelCount : Nat := 21
def noFinal : Nat := 0x11A7
def finalCount : Nat := 28

def isSyllable (n : Nat) : Bool := firstSyllable ≤ n && n < firstSyllable + syllableCount

def syllableParts (n : Nat) : List Nat :=
  let place := n - firstSyllable
  let front :=
    [firstInitial + place / (vowelCount * finalCount),
     firstVowel + place % (vowelCount * finalCount) / finalCount]
  if place % finalCount = 0 then front else front ++ [noFinal + place % finalCount]

def syllable? (a b : Nat) : Option Nat :=
  if firstInitial ≤ a ∧ a < firstInitial + initialCount ∧ firstVowel ≤ b ∧
      b < firstVowel + vowelCount then
    some (firstSyllable + ((a - firstInitial) * vowelCount + (b - firstVowel)) * finalCount)
  else if isSyllable a ∧ (a - firstSyllable) % finalCount = 0 ∧ noFinal < b ∧
      b < noFinal + finalCount then
    some (a + (b - noFinal))
  else none

def halves? (n : Nat) : Option (Nat × Nat) :=
  (composites.find? fun r => r.2.2 = n).map fun r => (r.1, r.2.1)

def composite? (a b : Nat) : Option Nat :=
  match syllable? a b with
  | some n => some n
  | none => (composites.find? fun r => r.1 = a && r.2.1 = b).map fun r => r.2.2

def takeApartOnce (points : List Nat) : List Nat :=
  points.flatMap fun n =>
    if isSyllable n then syllableParts n
    else
      match halves? n with
      | some (a, b) => [a, b]
      | none => [n]

/-- No composite holds another one that holds a third. -/
def takeApart (points : List Nat) : List Nat := takeApartOnce (takeApartOnce points)

/-- Puts a code point behind a text, last first. A mark goes before marks of a higher class. -/
def putMark (n : Nat) : List Nat → List Nat
  | [] => [n]
  | m :: before =>
    if combiningClass n ≠ 0 ∧ combiningClass n < combiningClass m then m :: putMark n before
    else n :: m :: before

def sortMarks (points : List Nat) : List Nat :=
  (points.foldl (fun before n => putMark n before) []).reverse

/-- A text while it is put together: what is done, the letter that marks are joined to, and the
    marks that stay behind it. Both lists have the last code point first. -/
structure Assembly where
  done : List Nat := []
  letter : Option Nat := none
  marks : List Nat := []

def Assembly.text (a : Assembly) : List Nat := (a.marks ++ a.letter.toList ++ a.done).reverse

/-- Joins a code point to the letter, unless a mark of at least its class stands between them. -/
def Assembly.add (a : Assembly) (n : Nat) : Assembly :=
  let isFree :=
    match a.marks with
    | [] => true
    | m :: _ => decide (combiningClass m < combiningClass n)
  match a.letter, a.letter.bind (composite? · n), isFree with
  | some _, some c, true => { a with letter := some c }
  | _, _, _ =>
    if combiningClass n = 0 then
      { done := a.marks ++ a.letter.toList ++ a.done, letter := some n }
    else { a with marks := n :: a.marks }

def putTogether (points : List Nat) : List Nat :=
  (points.foldl Assembly.add {}).text

def normalForm (points : List Nat) : List Nat := putTogether (sortMarks (takeApart points))

def isNormal (points : List Nat) : Bool := normalForm points = points

end TestImpact.Text
