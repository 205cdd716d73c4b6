import TestImpact.Text.Formless
import TestImpact.Web.Domain.Respelling

namespace TestImpact.Web.Domain

open Text (CodePoints)

/-- Code points with a form that no name holds: signs with a dot in them, signs that describe
    characters, and signs for what is missing. -/
def refused : CodePoints :=
  #[(0x2024, 0x2026), (0x2488, 0x249B), (0x2FF0, 0x2FFF), (0x31EF, 0x31EF), (0x33C2, 0x33C2),
   (0x33C7, 0x33C7), (0x33D8, 0x33D8), (0xFE12, 0xFE12), (0xFE19, 0xFE19), (0xFE30, 0xFE30),
   (0xFE52, 0xFE52), (0xFFFC, 0xFFFC), (0x1F100, 0x1F100)]

/-- The joiners, which have no form but may stand in a name in their place. -/
def nonJoiner : Nat := 0x200C
def joiner : Nat := 0x200D

def isSpelling (n : Nat) : Bool :=
  n < 0x80 || n = nonJoiner || n = joiner ||
    !(Text.formless.has n || refused.has n || (respelling? n).isSome)

end TestImpact.Web.Domain
