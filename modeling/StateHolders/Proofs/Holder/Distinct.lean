import Mathlib.Data.Finset.Card
import StateHolders.Holder.Extraction

/-! Lists without repetitions: a member stands once, in the place of its first appearance. -/

namespace StateHolders

variable {α : Type} {xs ys : List String} {x y : String}

theorem mem_distinct : x ∈ distinct xs ↔ x ∈ xs := by
  induction xs with
  | nil => rfl
  | cons y xs ih =>
    rw [distinct, List.mem_cons, List.mem_cons, List.mem_filter, ih]
    by_cases hxy : x = y <;> simp [hxy]

theorem nodup_distinct : (distinct xs).Nodup := by
  induction xs with
  | nil => exact List.nodup_nil
  | cons x xs ih =>
    rw [distinct, List.nodup_cons]
    exact ⟨by simp, ih.filter _⟩

theorem distinct_append_singleton :
    distinct (xs ++ [x]) = if x ∈ xs then distinct xs else distinct xs ++ [x] := by
  induction xs with
  | nil => rfl
  | cons y xs ih =>
    rw [List.cons_append, distinct, ih, distinct]
    by_cases hxy : x = y
    · subst hxy
      split <;> simp
    · split <;> simp_all

/-- The names are the members of `all`, in the order of their first appearances, and so each once. -/
structure FirstAppearances (all names : List String) : Prop where
  mem_iff : ∀ a, a ∈ names ↔ a ∈ all
  ordered : names.Pairwise fun a b => all.idxOf a < all.idxOf b

theorem pairwise_idxOf_distinct :
    (distinct xs).Pairwise fun a b => xs.idxOf a < xs.idxOf b := by
  induction xs with
  | nil => exact .nil
  | cons x xs ih =>
    rw [distinct, List.pairwise_cons]
    have hne : ∀ a ∈ (distinct xs).filter (· ≠ x), x ≠ a := fun a ha h => by simp [h] at ha
    refine ⟨fun a ha => ?_, (ih.filter _).imp_of_mem fun ha hb hlt => ?_⟩
    · rw [List.idxOf_cons_self, List.idxOf_cons_ne _ (hne a ha)]
      exact Nat.succ_pos _
    · rw [List.idxOf_cons_ne _ (hne _ ha), List.idxOf_cons_ne _ (hne _ hb)]
      exact Nat.succ_lt_succ hlt

theorem firstAppearances_distinct : FirstAppearances xs (distinct xs) :=
  ⟨fun _ => mem_distinct, pairwise_idxOf_distinct⟩

theorem perm_distinct (h : xs.Perm ys) : (distinct xs).Perm (distinct ys) := by
  refine (List.perm_ext_iff_of_nodup nodup_distinct nodup_distinct).mpr fun a => ?_
  rw [mem_distinct, mem_distinct, h.mem_iff]

theorem one_lt_length_distinct_iff : 1 < (distinct xs).length ↔ ∃ a ∈ xs, ∃ b ∈ xs, a ≠ b := by
  rw [← List.toFinset_card_of_nodup nodup_distinct, Finset.one_lt_card]
  simp only [List.mem_toFinset, mem_distinct]

/-! A search finds the same, since a member that it passes over may as well be missing elsewhere. -/

theorem findSome?_filter_ne {f : String → Option α} (hx : f x = none) :
    (xs.filter (· ≠ x)).findSome? f = xs.findSome? f := by
  induction xs with
  | nil => rfl
  | cons y xs ih =>
    by_cases hyx : y = x
    · simpa [hyx, hx] using ih
    · simp only [ne_eq, hyx, not_false_eq_true, decide_true, List.filter_cons_of_pos,
        List.findSome?_cons, ← ih]

theorem findSome?_distinct {f : String → Option α} :
    (distinct xs).findSome? f = xs.findSome? f := by
  induction xs with
  | nil => rfl
  | cons x xs ih =>
    rw [distinct, List.findSome?_cons, List.findSome?_cons]
    cases hx : f x with
    | some b => rfl
    | none => rw [findSome?_filter_ne hx, ih]

end StateHolders
