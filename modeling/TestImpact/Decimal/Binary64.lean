namespace TestImpact.Decimal

/-- A number in the 64-bit binary format, told apart by its bits: the two zeros differ. -/
structure Binary64 where
  bits : UInt64
  deriving DecidableEq, Repr, Inhabited

namespace Binary64

def ofFloat (x : Float) : Binary64 := ⟨x.toBits⟩

def toFloat (x : Binary64) : Float := Float.ofBits x.bits

def negative (x : Binary64) : Bool := decide (0x8000000000000000 ≤ x.bits)

def exponentField (x : Binary64) : Nat := ((x.bits >>> 52) &&& 0x7FF).toNat

def fractionField (x : Binary64) : Nat := (x.bits &&& 0xFFFFFFFFFFFFF).toNat

def isFinite (x : Binary64) : Bool := decide (x.exponentField ≠ 2047)

/-- A positive dyadic rational `mantissa * 2 ^ exponent` with the room around it: `narrow` says that
    the neighbour below is nearer than the one above. -/
structure Magnitude where
  mantissa : Nat
  exponent : Int
  narrow : Bool
  deriving DecidableEq, Repr

def magnitude (x : Binary64) : Magnitude :=
  if x.exponentField = 0 then ⟨x.fractionField, -1074, false⟩
  else ⟨0x10000000000000 + x.fractionField, (x.exponentField : Int) - 1075,
    decide (x.fractionField = 0) && decide (1 < x.exponentField)⟩

end Binary64

end TestImpact.Decimal
