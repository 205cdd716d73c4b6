import TestImpact.Decimal.Shortest

namespace TestImpact.Decimal

structure Layout where
  lowestPositional : Int
  highestPositional : Int
  keepsPoint : Bool
  signsExponent : Bool

def zeros (n : Nat) : List Char := List.replicate n '0'

def digitText (s : Scaled) : List Char := Nat.toDigits 10 s.digits

def strippedDigits (s : Scaled) : List Char :=
  match ((digitText s).reverse.dropWhile (· = '0')).reverse with
  | [] => ['0']
  | ds => ds

def firstPower (s : Scaled) : Int := s.exponent + (digitText s).length - 1

def Layout.positional (l : Layout) (digits : List Char) (power : Int) : List Char :=
  if power < 0 then ['0', '.'] ++ zeros (-power - 1).toNat ++ digits
  else
    let places := power.toNat + 1
    let whole := digits.take places ++ zeros (places - digits.length)
    match digits.drop places with
    | [] => if l.keepsPoint then whole ++ ['.', '0'] else whole
    | rest => whole ++ '.' :: rest

def Layout.scientific (l : Layout) (digits : List Char) (power : Int) : List Char :=
  let mantissa := match digits with
    | [] => []
    | [d] => [d]
    | d :: rest => d :: '.' :: rest
  let sign := if power < 0 then ['-'] else if l.signsExponent then ['+'] else []
  mantissa ++ 'e' :: sign ++ Nat.toDigits 10 power.natAbs

def Layout.decimal (l : Layout) (s : Scaled) : List Char :=
  let power := firstPower s
  if l.lowestPositional ≤ power ∧ power ≤ l.highestPositional then
    l.positional (strippedDigits s) power
  else l.scientific (strippedDigits s) power

def Layout.text (l : Layout) (x : Binary64) : String :=
  let sign := if x.negative then ['-'] else []
  let d := x.magnitude
  if d.mantissa = 0 then String.ofList (sign ++ if l.keepsPoint then ['0', '.', '0'] else ['0'])
  else String.ofList (sign ++ l.decimal (shortest d))

end TestImpact.Decimal
