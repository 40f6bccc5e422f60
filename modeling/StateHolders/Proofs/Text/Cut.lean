import StateHolders.Text.Cut

/-! Cutting texts at a character. The cut is where it is expected if the text on the right side of it does
not have the character, and a text without the character is not cut. -/

namespace StateHolders.Text

theorem notMem_afterLast (sep : Char) (s : List Char) : sep ∉ afterLast sep s := by
  intro h
  have hmem : sep ∈ s.reverse.takeWhile (· ≠ sep) := List.mem_reverse.mp h
  have hall : (s.reverse.takeWhile (· ≠ sep)).all (· ≠ sep) = true := List.all_takeWhile
  simpa using List.all_eq_true.mp hall sep hmem

theorem takeWhile_ne_of_notMem {sep : Char} {s : List Char} (h : sep ∉ s) :
    s.takeWhile (· ≠ sep) = s := by
  have hall : ∀ c ∈ s, decide (c ≠ sep) = true := fun c hc => by
    simpa using fun heq : c = sep => h (heq ▸ hc)
  have h : (s ++ []).takeWhile (· ≠ sep) = s ++ [].takeWhile (· ≠ sep) :=
    List.takeWhile_append_of_pos hall
  simpa using h

theorem afterLast_of_notMem {sep : Char} {s : List Char} (h : sep ∉ s) :
    afterLast sep s = s := by
  rw [afterLast, takeWhile_ne_of_notMem (by simpa using h), List.reverse_reverse]

theorem afterLast_append {sep : Char} {t : List Char} (h : sep ∉ t) (s : List Char) :
    afterLast sep (s ++ sep :: t) = t := by
  have hall : ∀ c ∈ t.reverse, decide (c ≠ sep) = true := fun c hc => by
    simpa using fun heq : c = sep => h (heq ▸ List.mem_reverse.mp hc)
  have hrun : (t.reverse ++ sep :: s.reverse).takeWhile (· ≠ sep) = t.reverse := by
    rw [List.takeWhile_append_of_pos hall]
    simp
  have hreverse : (s ++ sep :: t).reverse = t.reverse ++ sep :: s.reverse := by simp
  rw [afterLast, hreverse, hrun, List.reverse_reverse]

theorem beforeLast_append {sep : Char} {t : List Char} (h : sep ∉ t) (s : List Char) :
    beforeLast sep (s ++ sep :: t) = s := by
  have hmem : sep ∈ s ++ sep :: t := List.mem_append_right _ List.mem_cons_self
  have hsplit := beforeLast_append_afterLast hmem
  rwa [afterLast_append h, List.append_cancel_right_eq] at hsplit

theorem afterLast_append_of_notMem {sep : Char} {t : List Char} (h : sep ∉ t) (s : List Char) :
    afterLast sep (s ++ t) = afterLast sep s ++ t := by
  have hall : ∀ c ∈ t.reverse, decide (c ≠ sep) = true := fun c hc => by
    simpa using fun heq : c = sep => h (heq ▸ List.mem_reverse.mp hc)
  rw [afterLast, afterLast, List.reverse_append, List.takeWhile_append_of_pos hall,
    List.reverse_append, List.reverse_reverse]

theorem beforeLast_of_notMem {sep : Char} {s : List Char} (h : sep ∉ s) :
    beforeLast sep s = [] := by
  have hsplit := List.takeWhile_append_dropWhile (p := (· ≠ sep)) (l := s.reverse)
  rw [takeWhile_ne_of_notMem (by simpa using h)] at hsplit
  have hnil : s.reverse.dropWhile (· ≠ sep) = [] := List.append_right_eq_self.mp hsplit
  rw [beforeLast, hnil]
  rfl

theorem cutFirst?_append {sep : Char} {u : List Char} (h : sep ∉ u) (v : List Char) :
    cutFirst? sep (u ++ sep :: v) = some (u, v) := by
  induction u with
  | nil => simp [cutFirst?]
  | cons c u ih =>
    rw [List.mem_cons, not_or] at h
    simp [cutFirst?, Ne.symm h.1, ih h.2]

theorem cutFirst?_of_notMem {sep : Char} {s : List Char} (h : sep ∉ s) :
    cutFirst? sep s = none := by
  induction s with
  | nil => rfl
  | cons c s ih =>
    rw [List.mem_cons, not_or] at h
    simp [cutFirst?, Ne.symm h.1, ih h.2]

theorem eq_append_of_cutFirst? {sep : Char} {s u v : List Char} (h : cutFirst? sep s = some (u, v)) :
    s = u ++ sep :: v := by
  induction s generalizing u with
  | nil => cases h
  | cons c s ih =>
    rw [cutFirst?] at h
    split at h
    · next hc =>
      cases h
      rw [hc, List.nil_append]
    · obtain ⟨⟨u', v'⟩, hs, heq⟩ := Option.map_eq_some_iff.mp h
      cases heq
      rw [ih hs, List.cons_append]

theorem eq_append_of_afterPrefix? {mark s r : List Char} (h : afterPrefix? mark s = some r) :
    s = mark ++ r := by
  induction mark generalizing s with
  | nil => simpa [afterPrefix?] using h
  | cons c mark ih =>
    cases s with
    | nil => cases h
    | cons d s =>
      rw [afterPrefix?] at h
      split at h
      · next hc => rw [hc, ih h, List.cons_append]
      · cases h

end StateHolders.Text
