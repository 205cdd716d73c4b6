import TestImpact.Decimal.Binary64

namespace TestImpact.Decimal

open Binary64 (Magnitude)

structure Scaled where
  digits : Nat
  exponent : Int
  deriving DecidableEq, Repr

/-- The reals that round to a dyadic number, over one denominator. An even mantissa takes the ends
    in, because a tie rounds to the even neighbour. -/
structure Interval where
  low : Nat
  value : Nat
  high : Nat
  denominator : Nat
  closed : Bool

def Interval.around (d : Magnitude) : Interval :=
  let scale := Nat.pow 2 (d.exponent - 2).toNat
  { low := (4 * d.mantissa - if d.narrow then 1 else 2) * scale
    value := 4 * d.mantissa * scale
    high := (4 * d.mantissa + 2) * scale
    denominator := Nat.pow 2 (2 - d.exponent).toNat
    closed := d.mantissa % 2 = 0 }

def Scaled.ratio (s : Scaled) : Nat × Nat :=
  (s.digits * Nat.pow 10 s.exponent.toNat, Nat.pow 10 (-s.exponent).toNat)

def Interval.holds (i : Interval) (s : Scaled) : Bool :=
  let (n, d) := s.ratio
  if i.closed then i.low * d ≤ n * i.denominator && n * i.denominator ≤ i.high * d
  else i.low * d < n * i.denominator && n * i.denominator < i.high * d

def Interval.distance (i : Interval) (s : Scaled) : Nat :=
  let (n, d) := s.ratio
  (n * i.denominator - i.value * d) + (i.value * d - n * i.denominator)

def leadingPower (numerator denominator : Nat) : Int :=
  let guess : Int := (Nat.toDigits 10 numerator).length - (Nat.toDigits 10 denominator).length
  if denominator * Nat.pow 10 guess.toNat ≤ numerator * Nat.pow 10 (-guess).toNat then guess
  else guess - 1

/-- The neighbours of the middle on the grid of multiples of `10 ^ exponent` that lie in the
    interval, the nearer one first and of two at the same distance the even one. -/
def Interval.onGrid (i : Interval) (exponent : Int) : Option Scaled :=
  let below : Scaled :=
    ⟨i.value * Nat.pow 10 (-exponent).toNat / (i.denominator * Nat.pow 10 exponent.toNat), exponent⟩
  let above : Scaled := ⟨below.digits + 1, exponent⟩
  match i.holds below, i.holds above with
  | true, true =>
    let l := i.distance below
    let r := i.distance above
    if l < r || (l == r && below.digits % 2 == 0) then some below else some above
  | true, false => some below
  | false, true => some above
  | false, false => none

/-- The decimal with the fewest digits that rounds to the given number, and of those the nearest:
    the first grid with a hit wins, from one digit to the seventeen that always suffice. -/
def shortest (d : Magnitude) : Scaled :=
  let i := Interval.around d
  let top := leadingPower i.value i.denominator
  ((List.range 17).findSome? fun (n : Nat) => i.onGrid (top - (n : Int))).getD ⟨0, 0⟩

end TestImpact.Decimal
