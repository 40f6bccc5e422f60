import Mathlib.Data.List.Nodup

/-! Looking up in a list of pairs. Where no first member comes twice, what is in the list is what is found. -/

namespace StateHolders

universe u v

variable {α : Type u} {β : Type v} [BEq α] [LawfulBEq α] {pairs : List (α × β)} {a : α} {b : β}

theorem mem_of_lookup (h : pairs.lookup a = some b) : (a, b) ∈ pairs := by
  obtain ⟨before, after, rfl, -⟩ := List.lookup_eq_some_iff.mp h
  exact List.mem_append_right _ List.mem_cons_self

theorem lookup_of_mem (hnodup : (pairs.map Prod.fst).Nodup) (h : (a, b) ∈ pairs) :
    pairs.lookup a = some b := by
  obtain ⟨before, after, rfl⟩ := List.append_of_mem h
  refine List.lookup_eq_some_iff.mpr ⟨before, after, rfl, fun pair hpair => ?_⟩
  rw [List.map_append, List.nodup_append] at hnodup
  have hne := hnodup.2.2 pair.1 (List.mem_map_of_mem hpair) a (by simp)
  simpa using hne.symm

end StateHolders
