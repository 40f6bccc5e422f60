/-! Sets of characters given by ranges of code points. -/

namespace StateHolders.Text

/-- Closed ranges of code points, in increasing order. -/
abbrev CharSet := List (Nat × Nat)

namespace CharSet

def contains (ranges : CharSet) (c : Char) : Bool :=
  ranges.any fun (low, high) => low ≤ c.toNat && c.toNat ≤ high

end CharSet
end StateHolders.Text
