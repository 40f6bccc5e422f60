/-! Cutting a text at a separator, and measuring it in bytes. A text cut at the last separator is
the text before it, the separator, and the text after it. -/

namespace StateHolders.Text

def utf8Length : List Char → Nat
  | [] => 0
  | c :: s => c.utf8Size + utf8Length s

/-- The text after the last `sep`, or all of it. -/
def afterLast (sep : Char) (s : List Char) : List Char :=
  (s.reverse.takeWhile (· ≠ sep)).reverse

/-- The text before the last `sep`, or nothing. -/
def beforeLast (sep : Char) (s : List Char) : List Char :=
  ((s.reverse.dropWhile (· ≠ sep)).drop 1).reverse

def cutFirst? (sep : Char) : List Char → Option (List Char × List Char)
  | [] => none
  | c :: s => if c = sep then some ([], s) else (cutFirst? sep s).map fun (a, b) => (c :: a, b)

def afterPrefix? : List Char → List Char → Option (List Char)
  | [], s => some s
  | _ :: _, [] => none
  | p :: ps, c :: s => if p = c then afterPrefix? ps s else none

def cutLast? (mark : List Char) : List Char → Option (List Char × List Char)
  | [] => none
  | c :: s =>
    match cutLast? mark s with
    | some (a, b) => some (c :: a, b)
    | none => (afterPrefix? mark (c :: s)).map ([], ·)

theorem beforeLast_append_afterLast {sep : Char} {s : List Char} (h : sep ∈ s) :
    beforeLast sep s ++ sep :: afterLast sep s = s := by
  have hr : sep ∈ s.reverse := List.mem_reverse.mpr h
  have hd : s.reverse.dropWhile (· ≠ sep) = sep :: (s.reverse.dropWhile (· ≠ sep)).drop 1 := by
    generalize s.reverse = r at hr
    induction r with
    | nil => cases hr
    | cons c r ih =>
      by_cases hc : c = sep
      · simp [hc]
      · have hm : sep ∈ r := by simpa [Ne.symm hc] using hr
        simpa [hc] using ih hm
  have hs := congrArg List.reverse
    (List.takeWhile_append_dropWhile (p := (· ≠ sep)) (l := s.reverse))
  rw [hd, List.reverse_append, List.reverse_cons, List.reverse_reverse] at hs
  simpa [beforeLast, afterLast] using hs

theorem afterPrefix?_append (p s : List Char) : afterPrefix? p (p ++ s) = some s := by
  induction p with
  | nil => rfl
  | cons c p ih => simpa [afterPrefix?] using ih

end StateHolders.Text
