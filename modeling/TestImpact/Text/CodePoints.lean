namespace TestImpact.Text

/-- A set of code points, as inclusive ranges in ascending order. -/
abbrev CodePoints := Array (Nat × Nat)

def CodePoints.has (s : CodePoints) (n : Nat) : Bool :=
  s.any fun r => decide (r.1 ≤ n) && decide (n ≤ r.2)

end TestImpact.Text
