import StateHolders.Proofs.Holder.Extraction
import StateHolders.Proofs.Holder.KeyCounts

/-! Saveable keys of a persistent holder that passes its checks: parameters and properties carry the
same keys equally often. -/

namespace StateHolders.Holder

theorem problem?_eq_none_iff {h : Holder} {run : InjectionMode} :
    h.problem? run = none ↔ h.saveableKeyProblem? = none ∧
      h.injectionProblem? (h.effectiveMode run) = none ∧ h.providerProblem? = none := by
  simp only [problem?, Option.orElse_eq_orElse, Option.orElse_eq_or, Option.or_eq_none_iff]

theorem count_paramKeys_eq {h : Holder} (hbalanced : h.unbalancedKeyProblem? = none)
    (key : String) : h.paramKeys.count key = h.propertyKeys.count key := by
  rw [unbalancedKeyProblem?_eq] at hbalanced
  by_cases hkey : key ∈ h.paramKeys ++ h.propertyKeys
  · have hnone := List.findSome?_eq_none_iff.mp hbalanced key hkey
    split at hnone
    · next heq => exact heq
    · cases hnone
  · rw [List.mem_append, not_or] at hkey
    rw [List.count_eq_zero.mpr hkey.1, List.count_eq_zero.mpr hkey.2]

theorem paramKeys_perm_propertyKeys {h : Holder} {run : InjectionMode}
    (hmode : h.mode = .persistent) (hok : h.problem? run = none) :
    h.paramKeys.Perm h.propertyKeys := by
  have hkeys := (problem?_eq_none_iff.mp hok).1
  have hbalanced : h.unbalancedKeyProblem? = none := by
    simp only [saveableKeyProblem?, hmode, Option.orElse_eq_orElse, Option.orElse_eq_or,
      Option.or_eq_none_iff] at hkeys
    exact hkeys.2
  exact List.perm_iff_count.mpr (count_paramKeys_eq hbalanced)

theorem eq_of_ofDeclaration {d : Declaration} {h : Holder} (hd : ofDeclaration d = .ok h) :
    h.qualifiedName = d.qualifiedName ∧ h.package = d.package ∧ h.mode = d.mode := by
  obtain ⟨-, rfl⟩ := Declaration.ofDeclaration_eq_ok_iff.mp hd
  exact ⟨rfl, rfl, rfl⟩

theorem mode_ofDeclaration {d : Declaration} {h : Holder} (hd : ofDeclaration d = .ok h) :
    h.mode = d.mode := (eq_of_ofDeclaration hd).2.2

theorem injectionMode_ofDeclaration {d : Declaration} {h : Holder} (hd : ofDeclaration d = .ok h) :
    h.injectionMode = d.injectionMode? := by
  obtain ⟨-, rfl⟩ := Declaration.ofDeclaration_eq_ok_iff.mp hd
  rfl

end StateHolders.Holder
