import TestImpact.Text.Utf8

namespace TestImpact.Web

def lineEnd : List UInt8 := [13, 10]

def line (s : String) : List UInt8 := Text.Utf8.encode s ++ lineEnd

def takeLine : List UInt8 → Option (List UInt8 × List UInt8)
  | [] => none
  | [_] => none
  | a :: b :: rest =>
    if a = 13 ∧ b = 10 then some ([], rest)
    else (takeLine (b :: rest)).map fun split => (a :: split.1, split.2)

theorem length_takeLine {bytes first rest : List UInt8} (h : takeLine bytes = some (first, rest)) :
    rest.length < bytes.length := by
  fun_induction takeLine bytes generalizing first rest with
  | case1 => cases h
  | case2 => cases h
  | case3 a b more =>
    cases h
    simp only [List.length_cons]
    omega
  | case4 a b more _ ih =>
    obtain ⟨⟨l, r⟩, found, same⟩ := Option.map_eq_some_iff.mp h
    cases same
    have := ih found
    simp only [List.length_cons] at this ⊢
    omega

end TestImpact.Web
