import Mathlib.Data.Char
import Mathlib.Data.List.Lex
import Mathlib.Data.Prod.Lex
import StateHolders.Path

/-! The order of paths. It is the lexicographic order of their components, so it is linear up to the
spelling of paths. -/

namespace StateHolders.Path

variable {p q : Path}

def Component.rank (a : Component) : ℕ ×ₗ List Char := toLex (a.key.1, a.key.2.toList)

theorem Component.rank_injective {a b : Component} (h : a.rank = b.rank) : a = b := by
  obtain ⟨hkind, hname⟩ := Prod.mk.inj (toLex.injective h)
  have hname : a.key.2 = b.key.2 := String.toList_inj.mp hname
  cases a <;> cases b <;> simp_all [Component.key]

theorem Component.precedes_iff {a b : Component} : a.precedes b = true ↔ a.rank < b.rank := by
  rw [precedes, Bool.or_eq_true, Bool.and_eq_true, decide_eq_true_eq, decide_eq_true_eq,
    decide_eq_true_eq, String.lt_iff, rank, rank, Prod.Lex.toLex_lt_toLex]

def rank (p : Path) : List (ℕ ×ₗ List Char) := p.components.map Component.rank

theorem rank_eq_iff : p.rank = q.rank ↔ p.components = q.components :=
  ⟨List.map_injective_iff.mpr (fun _ _ => Component.rank_injective) |>.eq_iff.mp, congrArg _⟩

theorem leComponents_iff {as bs : List Component} :
    leComponents as bs = true ↔ ¬bs.map Component.rank < as.map Component.rank := by
  induction as generalizing bs with
  | nil => simp [leComponents]
  | cons a as ih =>
    cases bs with
    | nil => simp [leComponents]
    | cons b bs =>
      rw [leComponents, List.map_cons, List.map_cons, List.cons_lt_cons_iff]
      split
      · next hab => simp [hab, ih]
      · next hab =>
        have hne : a.rank ≠ b.rank := fun h => hab (Component.rank_injective h)
        simp [Component.precedes_iff, hne.symm, lt_iff_le_and_ne, hne]

theorem le_iff : p.le q = true ↔ p.rank ≤ q.rank := leComponents_iff.trans not_lt

theorem pairwise_rank_mergeSort {ps : List Path} (h : ps.Pairwise (·.components ≠ ·.components)) :
    (ps.mergeSort le).Pairwise (·.rank < ·.rank) := by
  have htrans : ∀ p q r : Path, p.le q = true → q.le r = true → p.le r = true := by
    simp only [le_iff]
    exact fun p q r => le_trans
  have htotal : ∀ p q : Path, (p.le q || q.le p) = true := by
    simp only [Bool.or_eq_true, le_iff]
    exact fun p q => le_total _ _
  have hsorted := List.pairwise_mergeSort htrans htotal ps
  have hdistinct : (ps.mergeSort le).Pairwise (·.components ≠ ·.components) :=
    ((List.mergeSort_perm _ _).pairwise_iff Ne.symm).mpr h
  refine hsorted.imp₂ (fun p q hle hne => ?_) hdistinct
  exact lt_of_le_of_ne (le_iff.mp hle) (mt rank_eq_iff.mp hne)

theorem eq_of_pairwise_rank {ps qs : List Path} (hps : ps.Pairwise (·.rank < ·.rank))
    (hqs : qs.Pairwise (·.rank < ·.rank)) (h : ∀ p, p ∈ ps ↔ p ∈ qs) : ps = qs := by
  have hnodup : ∀ {rs : List Path}, rs.Pairwise (·.rank < ·.rank) → rs.Nodup := fun hrs =>
    hrs.imp fun hlt heq => hlt.ne (congrArg rank heq)
  have hperm : ps.Perm qs := (List.perm_ext_iff_of_nodup (hnodup hps) (hnodup hqs)).mpr h
  exact hperm.eq_of_pairwise (fun _ _ _ _ hlt hlt' => absurd hlt hlt'.not_gt) hps hqs

end StateHolders.Path
