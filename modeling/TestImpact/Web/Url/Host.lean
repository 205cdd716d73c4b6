import TestImpact.Text.Utf8
import TestImpact.Web.Domain.Label
import TestImpact.Web.Percent

namespace TestImpact.Web

inductive UrlFault
  | relative
  | emptyHost
  | badPort
  | badIPv4
  | badIPv6
  | badDomain
  | badHostCharacter
  deriving DecidableEq, Repr

def UrlFault.message : UrlFault → String
  | .relative => "relative URL without a base"
  | .emptyHost => "empty host"
  | .badPort => "invalid port number"
  | .badIPv4 => "invalid IPv4 address"
  | .badIPv6 => "invalid IPv6 address"
  | .badDomain => "invalid international domain name"
  | .badHostCharacter => "invalid domain character"

namespace Host

def split (sep : Char) (cs : List Char) : List (List Char) := cs.splitOn sep

def isHexDigit (c : Char) : Bool := (Percent.hexValue c).isSome

def valueIn (radix : Nat) (cs : List Char) : Nat :=
  cs.foldl (fun acc c => acc * radix + (Percent.hexValue c).getD 0) 0

def ipv4Number (cs : List Char) : Option Nat :=
  match cs with
  | [] => none
  | '0' :: 'x' :: ds | '0' :: 'X' :: ds =>
    if ds.all isHexDigit then some (valueIn 16 ds) else none
  | '0' :: d :: ds =>
    if (d :: ds).all (fun c => '0' ≤ c && c ≤ '7') then some (valueIn 8 (d :: ds)) else none
  | ds => if ds.all Char.isDigit then some (valueIn 10 ds) else none

def labels (name : List Char) : List (List Char) :=
  let all := split '.' name
  if 1 < all.length ∧ all.getLast? = some [] then all.dropLast else all

/-- A name whose last label is a number has to be an IPv4 address. -/
def endsInNumber (name : List Char) : Bool :=
  match (labels name).getLast? with
  | some (c :: cs) => (c :: cs).all Char.isDigit || (ipv4Number (c :: cs)).isSome
  | _ => false

/-- The last number fills all bytes that the numbers before it leave. -/
def ipv4Value (numbers : List Nat) : Option Nat :=
  match numbers.reverse with
  | [] => none
  | last :: firsts =>
    let firsts := firsts.reverse
    if firsts.all (· ≤ 255) ∧ firsts.length ≤ 3 ∧ last < Nat.pow 256 (4 - firsts.length) then
      some (firsts.foldl (fun acc n => acc * 256 + n) 0 * Nat.pow 256 (4 - firsts.length) + last)
    else none

def dotted (n : Nat) : List Char :=
  ['.'].intercalate
    ([n / 0x1000000, n / 0x10000 % 256, n / 256 % 256, n % 256].map (Nat.toDigits 10))

def readIPv4 (name : List Char) : Except UrlFault (List Char) :=
  match (labels name).mapM ipv4Number with
  | some numbers =>
    match ipv4Value numbers with
    | some n => .ok (dotted n)
    | none => .error .badIPv4
  | none => .error .badIPv4

def ipv6Byte (cs : List Char) : Option Nat :=
  match cs with
  | [] => none
  | '0' :: _ :: _ => none
  | ds => if ds.all Char.isDigit ∧ ds.length ≤ 3 ∧ valueIn 10 ds ≤ 255 then some (valueIn 10 ds)
    else none

def ipv6Piece (cs : List Char) : Option Nat :=
  if cs ≠ [] ∧ cs.length ≤ 4 ∧ cs.all isHexDigit then some (valueIn 16 cs) else none

def ipv6Pieces : List (List Char) → Option (List Nat)
  | [] => some []
  | [last] =>
    if last.contains '.' then do
      match ← (split '.' last).mapM ipv6Byte with
      | [a, b, c, d] => some [a * 256 + b, c * 256 + d]
      | _ => none
    else (ipv6Piece last).map ([·])
  | piece :: more => do
    let p ← ipv6Piece piece
    let ps ← ipv6Pieces more
    return p :: ps

def splitGap : List Char → Option (List Char × List Char)
  | ':' :: ':' :: rest => some ([], rest)
  | c :: rest => (splitGap rest).map fun (a, b) => (c :: a, b)
  | [] => none

def piecesOf (cs : List Char) : Option (List Nat) :=
  if cs.isEmpty then some [] else ipv6Pieces (split ':' cs)

/-- The eight pieces of an IPv6 address. A gap stands for at least one zero; an IPv4 address before
    it is none. -/
def readPieces (cs : List Char) : Option (List Nat) :=
  match splitGap cs with
  | some (before, behind) => do
    let front ← piecesOf before
    let back ← piecesOf behind
    if front.length + back.length ≤ 7 ∧ ¬before.contains '.' then
      some (front ++ List.replicate (8 - front.length - back.length) 0 ++ back)
    else none
  | none => do
    let all ← piecesOf cs
    if all.length = 8 then some all else none

def longestZeros (pieces : List Nat) : Nat × Nat :=
  (List.range pieces.length).foldl (fun best i =>
    let n := ((pieces.drop i).takeWhile (· = 0)).length
    if best.2 < n then (i, n) else best) (0, 0)

def hexText (n : Nat) : List Char := Nat.toDigits 16 n

def ipv6Text (pieces : List Nat) : List Char :=
  let (start, n) := longestZeros pieces
  let joined (ps : List Nat) := [':'].intercalate (ps.map hexText)
  if 2 ≤ n then joined (pieces.take start) ++ [':', ':'] ++ joined (pieces.drop (start + n))
  else joined pieces

def readBracketed (cs : List Char) : Except UrlFault (List Char) :=
  if cs.getLast? ≠ some ']' then .error .badIPv6
  else
    match readPieces cs.dropLast with
    | some pieces => .ok ('[' :: ipv6Text pieces ++ [']'])
    | none => .error .badIPv6

def forbidden : List Char :=
  ['\x00', '\t', '\n', '\r', ' ', '#', '/', ':', '<', '>', '?', '@', '[', '\\', ']', '^', '|']

def isBarred (c : Char) : Bool :=
  c.toNat ≤ 0x20 || c.toNat = 0x7F || c = '%' || forbidden.contains c

def readDomain (cs : List Char) : Except UrlFault (List Char) :=
  match Text.Utf8.decode? (Percent.decode cs) with
  | none => .error .badDomain
  | some s =>
    let name := (Domain.spell (s.toList.map Char.toNat)).map Char.ofNat
    if name.any isBarred then .error .badDomain
    else
      match Domain.asciiLabels? (split '.' name) with
      | none => .error .badDomain
      | some labels =>
        let name := ['.'].intercalate labels
        if name = [] then .error .emptyHost
        else if endsInNumber name then readIPv4 name
        else .ok name

def readKnown : List Char → Except UrlFault (List Char)
  | '[' :: cs => readBracketed cs
  | cs => readDomain cs

/-- The host of any other scheme: an IPv6 address, or text without a forbidden character. -/
def readOpaque : List Char → Except UrlFault (List Char)
  | '[' :: cs => readBracketed cs
  | cs =>
    if cs.any forbidden.contains then .error .badHostCharacter else .ok (Percent.encode [] cs)

end Host

end TestImpact.Web
