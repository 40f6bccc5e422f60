/-! Names that are not taken: a base name, or the base name with the smallest number that makes it
free. -/

namespace StateHolders.Saver

def numbered (base : String) (n : Nat) : String := base ++ toString n

def firstFree (taken : List String) (base : String) (n : Nat) : Nat → String
  | 0 => numbered base n
  | count + 1 =>
    if numbered base n ∈ taken then firstFree taken base (n + 1) count else numbered base n

/-- As many names as are taken leave one of the numbers up to their count free. -/
def freshName (taken : List String) (base : String) : String :=
  if base ∈ taken then firstFree taken base 1 taken.length else base

end StateHolders.Saver
