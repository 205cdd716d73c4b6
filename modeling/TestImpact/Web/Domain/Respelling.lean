import TestImpact.Text.CodePoints
import TestImpact.Text.NormalForm
import TestImpact.Web.Domain.Respelling.Ideographs
import TestImpact.Web.Domain.Respelling.Letters
import TestImpact.Web.Domain.Respelling.Signs

/-!
How names are spelt: in small letters, in the plain form of each letter, and composed.
-/

namespace TestImpact.Web.Domain

open Text (CodePoints)

def leftOut : CodePoints :=
  #[(0xAD, 0xAD), (0x34F, 0x34F), (0x115F, 0x1160), (0x17B4, 0x17B5), (0x180B, 0x180F),
   (0x200B, 0x200B), (0x2060, 0x2064), (0x206A, 0x206F), (0x3164, 0x3164), (0xFE00, 0xFE0F),
   (0xFEFF, 0xFEFF), (0xFFA0, 0xFFA0), (0x1BCA0, 0x1BCA3), (0x1D173, 0x1D17A), (0xE0100, 0xE01EF)]

def within? {α : Type} (stretches : Array (Nat × Array α)) (n : Nat) : Option α :=
  stretches.findSome? fun s => if s.1 ≤ n then s.2[n - s.1]? else none

def inRows? (n : Nat) : Option Nat :=
  respeltRows.findSome? fun (first, last, step, target) =>
    if first ≤ n ∧ n ≤ last ∧ (n - first) % step = 0 then some (target + (n - first)) else none

def respelling? (n : Nat) : Option (List Nat) :=
  if leftOut.has n then some []
  else
    match inRows? n <|> within? respeltLetters n <|> within? respeltIdeographs n with
    | some m => some [m]
    | none => within? respeltSigns n

def spelling (n : Nat) : List Nat :=
  if n < 0x80 then [(Char.ofNat n).toLower.toNat] else (respelling? n).getD [n]

def isAscii (points : List Nat) : Bool := points.all (· < 0x80)

def spell (name : List Nat) : List Nat :=
  let points := name.flatMap spelling
  if isAscii points then points else Text.normalForm points

end TestImpact.Web.Domain
