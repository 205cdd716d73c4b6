import TestImpact.Json.Fault
import TestImpact.Json.Token

namespace TestImpact.Json

open Decimal (Binary64)

/-- Appends digits to a significand while it fits 64 bits; gives the digits that are left over. -/
def accumulate (significand : Nat) : List Nat → Nat × Nat
  | [] => (significand, 0)
  | d :: ds =>
    if significand * 10 + d < UInt64.size then accumulate (significand * 10 + d) ds
    else (significand, ds.length + 1)

def exponentValue (digits : List Nat) : Option Nat :=
  digits.foldl (fun acc d => acc.bind fun n =>
    if n * 10 + d < 0x80000000 then some (n * 10 + d) else none) (some 0)

def powerOfTen (n : Nat) : Float := Float.ofScientific 1 false n

/-- Multiplies by a power of ten in steps of at most `1e308`, each rounded by itself. Nothing comes
    of a number that grows past the largest one. -/
def timesPowerOfTen (f : Float) (exponent : Int) : Option Float :=
  if exponent.natAbs ≤ 308 then
    if 0 ≤ exponent then
      let product := f * powerOfTen exponent.natAbs
      if product.isInf then none else some product
    else some (f / powerOfTen exponent.natAbs)
  else if f == 0 then some f
  else if 0 ≤ exponent then none
  else timesPowerOfTen (f / powerOfTen 308) (exponent + 308)
  termination_by exponent.natAbs
  decreasing_by omega

def signed (negative : Bool) (f : Float) : Number :=
  .real (.ofFloat (if negative then -f else f))

def realNumber (negative : Bool) (significand : Nat) (exponent : Int) : Except Fault Number :=
  match timesPowerOfTen (UInt64.ofNat significand).toFloat exponent with
  | some f => .ok (signed negative f)
  | none => .error .numberOutOfRange

/-- The number that a numeral writes. A whole number that fits 64 bits is an integer; any other is
    real, and so is a zero with a sign. -/
def Numeral.number (n : Numeral) : Except Fault Number :=
  let (whole, dropped) := accumulate 0 n.whole
  let (significand, unused) := accumulate whole n.fraction
  let shift : Int := dropped - (n.fraction.length - unused : Nat)
  match n.exponent with
  | some (down, digits) =>
    match exponentValue digits with
    | some e => realNumber n.negative significand (if down then shift - e else shift + e)
    | none =>
      if significand ≠ 0 ∧ down = false then .error .numberOutOfRange
      else .ok (signed n.negative 0)
  | none =>
    if n.fraction ≠ [] ∨ dropped ≠ 0 then realNumber n.negative significand shift
    else if n.negative = false then .ok (.integer significand)
    else if significand = 0 ∨ 0x8000000000000000 < significand then realNumber true significand 0
    else .ok (.integer (-significand))

def NumberToken.number : NumberToken → Except Fault Number
  | .complete n => n.number
  | .broken true => .error .endInValue
  | .broken false => .error .badNumber

end TestImpact.Json
