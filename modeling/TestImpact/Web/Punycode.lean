namespace TestImpact.Web.Punycode

def base : Nat := 36
def lowest : Nat := 1
def highest : Nat := 26

def reduce (delta counted : Nat) : Nat :=
  if (base - lowest) * highest / 2 < delta then reduce (delta / (base - lowest)) (counted + base)
  else counted + (base - lowest + 1) * delta / (delta + 38)
  termination_by delta
  decreasing_by
    have : delta / 35 < delta := Nat.div_lt_self (by omega) (by decide)
    simpa [base, lowest] using this

/-- The bias for the next number, from the distance that the last one covered. -/
def adapt (delta points : Nat) (isFirst : Bool) : Nat :=
  let damped := if isFirst then delta / 700 else delta / 2
  reduce (damped + damped / points) 0

def threshold (k bias : Nat) : Nat :=
  if k ≤ bias + lowest then lowest else if bias + highest ≤ k then highest else k - bias

def digitValue (c : Char) : Option Nat :=
  if 'a' ≤ c ∧ c ≤ 'z' then some (c.toNat - 'a'.toNat)
  else if '0' ≤ c ∧ c ≤ '9' then some (c.toNat - '0'.toNat + 26)
  else none

def readNumber (bias k weight acc : Nat) : List Char → Option (Nat × List Char)
  | [] => none
  | c :: rest => do
    let d ← digitValue c
    let t := threshold k bias
    if d < t then some (acc + d * weight, rest)
    else readNumber bias (k + base) (weight * (base - t)) (acc + d * weight) rest

structure Cursor where
  point : Nat := 0x80
  place : Nat := 0
  bias : Nat := 72
  isFirst : Bool := true

def isScalar (n : Nat) : Bool := n < 0xD800 || (0xE000 ≤ n && n < 0x110000)

/-- Inserts one code point after another at the places that the numbers give. Each number takes at
    least one character, so as many rounds as there are characters suffice. -/
def insertPoints (out : List Nat) (cursor : Cursor) : Nat → List Char → Option (List Nat)
  | _, [] => some out
  | 0, _ => none
  | fuel + 1, cs => do
    let (delta, rest) ← readNumber cursor.bias base 1 0 cs
    let points := out.length + 1
    let distance := cursor.place + delta
    let point := cursor.point + distance / points
    let place := distance % points
    if isScalar point then
      insertPoints (out.take place ++ point :: out.drop place)
        ⟨point, place + 1, adapt delta points cursor.isFirst, false⟩ fuel rest
    else none

def lengthLimit : Nat := 2000

/-- The code points of an encoded label, all of it ASCII: plain characters before the last hyphen,
    numbers that say where the others go behind it. -/
def decode (label : List Char) : Option (List Nat) :=
  let numbers := (label.reverse.takeWhile (· ≠ '-')).reverse
  let front := label.take (label.length - numbers.length)
  if front = ['-'] ∨ lengthLimit < label.length ∨ label.any (0x80 ≤ ·.toNat) then none
  else insertPoints (front.dropLast.map Char.toNat) {} numbers.length numbers

def digit (n : Nat) : Char :=
  if n < 26 then Char.ofNat ('a'.toNat + n) else Char.ofNat ('0'.toNat + (n - 26))

theorem lowest_le_threshold (k bias : Nat) : lowest ≤ threshold k bias := by
  unfold threshold
  split
  · exact Nat.le_refl _
  · split <;> simp only [lowest, highest] at * <;> omega

def writeNumber (bias k n : Nat) : List Char :=
  let t := threshold k bias
  if n < t then [digit n]
  else digit (t + (n - t) % (base - t)) :: writeNumber bias (k + base) ((n - t) / (base - t))
  termination_by n
  decreasing_by
    have low : lowest ≤ threshold k bias := lowest_le_threshold k bias
    have shorter := Nat.div_le_self (n - threshold k bias) (base - threshold k bias)
    simp only [lowest] at low
    omega

/-- An encoding under way: what comes next, and the distance since the last number. -/
structure Writer where
  bias : Nat := 72
  distance : Nat := 0
  /-- The code points that are written already. -/
  written : Nat
  isFirst : Bool := true
  out : List Char

def Writer.pass (point : Nat) (w : Writer) (n : Nat) : Writer :=
  if n < point then { w with distance := w.distance + 1 }
  else if n = point then
    { bias := adapt w.distance (w.written + 1) w.isFirst
      distance := 0
      written := w.written + 1
      isFirst := false
      out := (writeNumber w.bias base w.distance).reverse ++ w.out }
  else w

def writePoints (points : List Nat) (w : Writer) (reached : Nat) : List Nat → List Char
  | [] => w.out.reverse
  | point :: more =>
    let w := { w with distance := w.distance + (point - reached) * (w.written + 1) }
    let w := points.foldl (Writer.pass point) w
    writePoints points { w with distance := w.distance + 1 } (point + 1) more

/-- Encodes a label: its plain characters, a hyphen behind them if there are any, and the numbers
    for all others. -/
def encode (points : List Nat) : List Char :=
  let plain := (points.filter (· < 0x80)).map Char.ofNat
  let others := ((points.filter (0x80 ≤ ·)).mergeSort (· ≤ ·)).eraseDups
  let front := if plain.isEmpty then [] else plain ++ ['-']
  writePoints points { written := plain.length, out := front.reverse } 0x80 others

end TestImpact.Web.Punycode
