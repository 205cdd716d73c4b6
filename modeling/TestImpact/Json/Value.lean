import TestImpact.Decimal.Binary64

namespace TestImpact.Json

open Decimal (Binary64)

inductive Number
  | integer (n : Int)
  | real (x : Binary64)
  deriving DecidableEq, Repr

/-- A JSON value. The members of an object stand in the order in which they are written. -/
inductive Value
  | null
  | bool (b : Bool)
  | number (n : Number)
  | text (s : String)
  | list (items : List Value)
  | object (members : List (String × Value))
  deriving Repr

namespace Value

def natural (n : UInt64) : Value := .number (.integer n.toNat)

/-- A real number, or `null` for one that has no decimal. -/
def real (x : Binary64) : Value := if x.isFinite then .number (.real x) else .null

def optional {α : Type} (name : String) (f : α → Value) : Option α → List (String × Value)
  | some a => [(name, f a)]
  | none => []

end Value

end TestImpact.Json
