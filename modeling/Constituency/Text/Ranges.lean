namespace Constituency.Text

/-- Closed intervals of code points, in increasing order and apart from each other. -/
abbrev Ranges := List (Nat × Nat)

def Ranges.holds (ranges : Ranges) (c : Char) : Bool :=
  ranges.any fun (first, last) => first ≤ c.toNat && c.toNat ≤ last

end Constituency.Text
