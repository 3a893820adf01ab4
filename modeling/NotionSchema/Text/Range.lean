namespace NotionSchema.Text

abbrev CodeRange := Nat × Nat

def CodeRange.covers (r : CodeRange) (n : Nat) : Bool := r.1 ≤ n && n ≤ r.2

def covered (ranges : List CodeRange) (c : Char) : Bool := ranges.any (·.covers c.toNat)

end NotionSchema.Text
