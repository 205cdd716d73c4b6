import TestImpact.Web.Domain.Direction
import TestImpact.Web.Domain.Joining
import TestImpact.Web.Domain.Spelling
import TestImpact.Web.Punycode

namespace TestImpact.Web.Domain

def isMark (n : Nat) : Bool := Text.nonspacingMarks.has n || Text.spacingMarks.has n

/-- Whether a label past ASCII is spelt as names are: in its normal form, with joiners in their
    place, and with no mark at its beginning. -/
def isSpelt (points : List Nat) : Bool :=
  points.all isSpelling && Text.isNormal points && !(points.head?.any isMark) &&
    joinersInPlace [] points

/-- One part of a name: its code points, and how it is written in ASCII. -/
structure Label where
  points : List Nat
  text : List Char
  deriving DecidableEq, Repr

def encodedMark : List Char := ['x', 'n', '-', '-']

def encodedLimit : Nat := 1000

/-- Reads an encoded label. It has to stand for something past ASCII. -/
def Label.decode? (encoded : List Char) : Option Label := do
  let points ← Punycode.decode encoded
  if !isAscii points && isSpelt points then some ⟨points, encodedMark ++ encoded⟩ else none

/-- Encodes a label past ASCII in such a way that it can be read again. -/
def Label.encode? (points : List Nat) : Option Label :=
  if encodedLimit < points.length then none
  else (decode? (Punycode.encode points)).filter (·.points = points)

def Label.read? (label : List Char) : Option Label :=
  let points := label.map Char.toNat
  if encodedMark.isPrefixOf label then decode? (label.drop encodedMark.length)
  else if isAscii points then some ⟨points, label⟩
  else encode? points

def asciiLabels? (labels : List (List Char)) : Option (List (List Char)) := do
  let read ← labels.mapM Label.read?
  if areDirected (read.map Label.points) then some (read.map Label.text) else none

end TestImpact.Web.Domain
