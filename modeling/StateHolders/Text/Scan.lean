/-! Reading from the front of a text. A reader leaves the rest of the text with a proof that it is
shorter, or not longer, than what the reader was given, so that repeated reading ends. -/

namespace StateHolders.Text

abbrev Rest (s : List Char) := { r : List Char // r.length < s.length }

abbrev Remainder (s : List Char) := { r : List Char // r.length ≤ s.length }

def Remainder.all (s : List Char) : Remainder s := ⟨s, Nat.le_refl _⟩

def Rest.remainder {s : List Char} (r : Rest s) : Remainder s := ⟨r.1, Nat.le_of_lt r.2⟩

/-- Takes `c` off the text, and with it the characters before it that `skips` holds of. -/
def accept (skips : Char → Bool) (c : Char) (s : List Char) : Option (Rest s) :=
  match h : s.dropWhile skips with
  | [] => none
  | d :: r =>
    if d = c then
      some ⟨r, (h ▸ List.dropWhile_suffix skips : d :: r <:+ s).length_le⟩
    else none

def takeRun (p : Char → Bool) (s : List Char) : Option (List Char × Rest s) :=
  if h : s.takeWhile p = [] then none
  else some (s.takeWhile p, ⟨s.dropWhile p, by
    have ht := congrArg List.length (List.takeWhile_append_dropWhile (p := p) (l := s))
    have hn := List.length_pos_iff.mpr h
    rw [List.length_append] at ht
    omega⟩)

end StateHolders.Text
