import Mathlib.Data.List.Nodup
import Mathlib.Data.List.Perm.Subperm
import Mathlib.Order.Nat
import StateHolders.Saver.FreshName
import StateHolders.Proofs.DottedName
import StateHolders.Proofs.Source.Stamp

/-! Names that are not taken. The names that can be tried are all different, so of one more of them than are
taken one is free, and the name that is chosen is the first free one. -/

namespace StateHolders

theorem Text.isAlphanumeric_of_isDigit {c : Char} (h : c.isDigit = true) :
    isAlphanumeric c = true := by
  have hrange : '0'.toNat ≤ c.toNat ∧ c.toNat ≤ '9'.toNat := by
    simpa [Char.isDigit, Char.le_def, UInt32.le_iff_toNat_le] using h
  refine List.any_eq_true.mpr ⟨(0x30, 0x39), List.mem_cons_self, ?_⟩
  simpa using hrange

namespace Saver

open QualifiedName (IsIdentifier)

variable {taken : List String} {base : String}

def candidate (base : String) : Nat → String
  | 0 => base
  | n + 1 => numbered base (n + 1)

theorem numbered_injective (base : String) : Function.Injective (numbered base) := by
  intro i j h
  have htext : toString i = toString j := (String.append_right_inj base).mp h
  rw [Nat.toString_eq_ofList_toDigits, Nat.toString_eq_ofList_toDigits, String.ofList_inj] at htext
  have hnumber := congrArg (Nat.ofDigitChars 10 · 0) htext
  simpa using hnumber

theorem numbered_ne (base : String) (n : Nat) : numbered base n ≠ base := by
  intro h
  have hlength := congrArg String.length h
  rw [numbered, String.length_append, Nat.toString_eq_ofList_toDigits, String.length_ofList] at hlength
  have hdigits := List.length_pos_of_ne_nil (Nat.toDigits_ne_nil (b := 10) (n := n))
  omega

theorem candidate_injective (base : String) : Function.Injective (candidate base) := by
  intro i j h
  match i, j with
  | 0, 0 => rfl
  | 0, j + 1 => exact absurd h.symm (numbered_ne base (j + 1))
  | i + 1, 0 => exact absurd h (numbered_ne base (i + 1))
  | i + 1, j + 1 => exact numbered_injective base h

theorem exists_candidate_notMem (taken : List String) (base : String) :
    ∃ i ≤ taken.length, candidate base i ∉ taken := by
  by_contra! hall
  -- the candidates are one more than the names that are taken, and all of them different
  have hnodup : ((List.range (taken.length + 1)).map (candidate base)).Nodup :=
    List.Nodup.map (candidate_injective base) List.nodup_range
  have hsubset : (List.range (taken.length + 1)).map (candidate base) ⊆ taken := by
    intro name hname
    obtain ⟨i, hi, rfl⟩ := List.mem_map.mp hname
    exact hall i (Nat.le_of_lt_succ (List.mem_range.mp hi))
  have hlength := (List.subperm_of_subset hnodup hsubset).length_le
  rw [List.length_map, List.length_range] at hlength
  omega

/-- The place of the first free name among those that can be tried. -/
def IsFirstFree (taken : List String) (base : String) (i : Nat) : Prop :=
  IsLeast {i | candidate base i ∉ taken} i

theorem IsFirstFree.mem_of_lt {i j : Nat} (h : IsFirstFree taken base i) (hj : j < i) :
    candidate base j ∈ taken := by
  by_contra hfree
  exact Nat.not_lt.mpr (h.2 hfree) hj

theorem exists_isFirstFree (taken : List String) (base : String) :
    ∃ i ≤ taken.length, IsFirstFree taken base i := by
  obtain ⟨bound, hbound, hfree⟩ := exists_candidate_notMem taken base
  have hleast := Nat.isLeast_find (p := fun i => candidate base i ∉ taken) ⟨bound, hfree⟩
  exact ⟨_, (hleast.2 hfree).trans hbound, hleast⟩

theorem IsFirstFree.firstFree_eq {i n count : Nat} (h : IsFirstFree taken base i) (hlow : n + 1 ≤ i)
    (hhigh : i ≤ n + 1 + count) : firstFree taken base (n + 1) count = candidate base i := by
  induction count generalizing n with
  | zero =>
    obtain rfl : i = n + 1 := by omega
    rfl
  | succ count ih =>
    rw [firstFree]
    rcases Nat.eq_or_lt_of_le hlow with rfl | hlt
    · exact if_neg h.1
    · have htaken : numbered base (n + 1) ∈ taken := h.mem_of_lt hlt
      rw [if_pos htaken]
      exact ih (by omega) (by omega)

theorem exists_freshName_eq (taken : List String) (base : String) :
    ∃ i ≤ taken.length, IsFirstFree taken base i ∧ freshName taken base = candidate base i := by
  obtain ⟨i, hle, h⟩ := exists_isFirstFree taken base
  refine ⟨i, hle, h, ?_⟩
  unfold freshName
  cases i with
  | zero =>
    have hfree : base ∉ taken := h.1
    exact if_neg hfree
  | succ n =>
    have htaken : base ∈ taken := h.mem_of_lt (Nat.succ_pos n)
    rw [if_pos htaken]
    exact h.firstFree_eq (by omega) (by omega)

theorem freshName_notMem (taken : List String) (base : String) : freshName taken base ∉ taken := by
  obtain ⟨i, -, h, hname⟩ := exists_freshName_eq taken base
  rw [hname]
  exact h.1

theorem isIdentifier_numbered (h : IsIdentifier base.toList) (n : Nat) :
    IsIdentifier (numbered base n).toList := by
  rw [numbered, String.toList_append]
  refine ⟨List.append_ne_nil_of_left_ne_nil h.1 _, fun c hc => ?_⟩
  rcases List.mem_append.mp hc with hbase | hdigit
  · exact h.2 c hbase
  · exact .inl (Text.isAlphanumeric_of_isDigit (Source.isDigit_of_mem_toString c hdigit))

theorem isIdentifier_freshName (h : IsIdentifier base.toList) (taken : List String) :
    IsIdentifier (freshName taken base).toList := by
  obtain ⟨i, -, -, hname⟩ := exists_freshName_eq taken base
  rw [hname]
  cases i with
  | zero => exact h
  | succ n => exact isIdentifier_numbered h (n + 1)

end Saver
end StateHolders
