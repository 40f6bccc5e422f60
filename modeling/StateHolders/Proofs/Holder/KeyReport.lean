import Mathlib.Data.Multiset.Defs
import StateHolders.Proofs.Holder.SaveableKeys

/-! The check of saveable keys, exactly. It passes where parameters and properties carry the same multiset
of keys. Where they do not, it reports the first key that is at fault, and no other check is heard. -/

namespace StateHolders.Holder

variable {h : Holder} {problem : Problem}

/-- What there is to report of saveable keys: the first parameter whose key no property carries or, where
there is none, the first key that parameters and properties carry unequally often. -/
inductive KeyFault (h : Holder) : Problem → Prop
  | missing {before after : List Param} {p : Param} {key : String}
      (place : h.params = before ++ p :: after) (carried : p.saveableKey = some key)
      (absent : key ∉ h.propertyKeys)
      (first : ∀ q ∈ before, ∀ k, q.saveableKey = some k → k ∈ h.propertyKeys) :
      KeyFault h (.missingSaveableProperty h.qualifiedName p.name key)
  | unbalanced {before after : List String} {key : String}
      (present : ∀ k ∈ h.paramKeys, k ∈ h.propertyKeys)
      (place : h.paramKeys ++ h.propertyKeys = before ++ key :: after)
      (differs : h.paramKeys.count key ≠ h.propertyKeys.count key)
      (first : ∀ k ∈ before, h.paramKeys.count k = h.propertyKeys.count k) :
      KeyFault h (.saveableKeyMismatch h.qualifiedName key (h.paramKeys.count key)
        (h.propertyKeys.count key))

theorem missingPropertyProblem?_eq_none_iff :
    h.missingPropertyProblem? = none ↔ ∀ key ∈ h.paramKeys, key ∈ h.propertyKeys := by
  simp only [missingPropertyProblem?, List.findSome?_eq_none_iff, paramKeys, List.mem_filterMap]
  constructor
  · rintro hnone key ⟨p, hp, hkey⟩
    by_contra hmissing
    simpa [hkey, hmissing] using hnone p hp
  · intro hpresent p hp
    split
    · next key hkey => rw [if_pos (hpresent key ⟨p, hp, hkey⟩)]
    · rfl

theorem missingPropertyProblem?_eq_some_iff : h.missingPropertyProblem? = some problem ↔
    ∃ before p after key, h.params = before ++ p :: after ∧ p.saveableKey = some key ∧
      key ∉ h.propertyKeys ∧ (∀ q ∈ before, ∀ k, q.saveableKey = some k → k ∈ h.propertyKeys) ∧
      problem = .missingSaveableProperty h.qualifiedName p.name key := by
  rw [missingPropertyProblem?, List.findSome?_eq_some_iff]
  constructor
  · rintro ⟨before, p, after, hplace, hfound, hbefore⟩
    have hfirst : ∀ q ∈ before, ∀ k, q.saveableKey = some k → k ∈ h.propertyKeys := by
      intro q hq k hk
      by_contra hmissing
      simpa [hk, hmissing] using hbefore q hq
    split at hfound
    · next key hkey =>
      split at hfound
      · cases hfound
      · next hmissing =>
        cases hfound
        exact ⟨before, p, after, key, hplace, hkey, hmissing, hfirst, rfl⟩
    · cases hfound
  · rintro ⟨before, p, after, key, hplace, hkey, hmissing, hfirst, rfl⟩
    refine ⟨before, p, after, hplace, by simp [hkey, hmissing], fun q hq => ?_⟩
    split
    · next k hk => rw [if_pos (hfirst q hq k hk)]
    · rfl

theorem unbalancedKeyProblem?_eq_none_iff :
    h.unbalancedKeyProblem? = none ↔ h.paramKeys.Perm h.propertyKeys := by
  constructor
  · intro hnone
    exact List.perm_iff_count.mpr (count_paramKeys_eq hnone)
  · intro hperm
    rw [unbalancedKeyProblem?_eq, List.findSome?_eq_none_iff]
    intro key _
    rw [if_pos (hperm.count_eq key)]

theorem unbalancedKeyProblem?_eq_some_iff : h.unbalancedKeyProblem? = some problem ↔
    ∃ before key after, h.paramKeys ++ h.propertyKeys = before ++ key :: after ∧
      h.paramKeys.count key ≠ h.propertyKeys.count key ∧
      (∀ k ∈ before, h.paramKeys.count k = h.propertyKeys.count k) ∧
      problem = .saveableKeyMismatch h.qualifiedName key (h.paramKeys.count key)
        (h.propertyKeys.count key) := by
  rw [unbalancedKeyProblem?_eq, List.findSome?_eq_some_iff]
  constructor
  · rintro ⟨before, key, after, hplace, hfound, hbefore⟩
    have hfirst : ∀ k ∈ before, h.paramKeys.count k = h.propertyKeys.count k := by
      intro k hk
      by_contra hdiffers
      simpa [hdiffers] using hbefore k hk
    split at hfound
    · cases hfound
    · next hdiffers =>
      cases hfound
      exact ⟨before, key, after, hplace, hdiffers, hfirst, rfl⟩
  · rintro ⟨before, key, after, hplace, hdiffers, hfirst, rfl⟩
    exact ⟨before, key, after, hplace, if_neg hdiffers, fun k hk => if_pos (hfirst k hk)⟩

theorem saveableKeyProblem?_eq_none_iff :
    h.saveableKeyProblem? = none ↔ h.mode = .plain ∨ h.paramKeys.Perm h.propertyKeys := by
  unfold saveableKeyProblem?
  split
  · next hmode => simp [hmode]
  · next hmode =>
    have hpresent : h.paramKeys.Perm h.propertyKeys →
        ∀ key ∈ h.paramKeys, key ∈ h.propertyKeys := fun hperm _ => hperm.mem_iff.mp
    rw [Option.orElse_eq_orElse, Option.orElse_eq_or, Option.or_eq_none_iff,
      missingPropertyProblem?_eq_none_iff, unbalancedKeyProblem?_eq_none_iff,
      and_iff_right_of_imp hpresent]
    simp [hmode]

theorem saveableKeyProblem?_eq_some_iff :
    h.saveableKeyProblem? = some problem ↔ h.mode = .persistent ∧ h.KeyFault problem := by
  unfold saveableKeyProblem?
  split
  · next hmode => simp [hmode]
  · next hmode =>
    rw [Option.orElse_eq_orElse, Option.orElse_eq_or, Option.or_eq_some_iff,
      missingPropertyProblem?_eq_some_iff, missingPropertyProblem?_eq_none_iff,
      unbalancedKeyProblem?_eq_some_iff, and_iff_right hmode]
    constructor
    · rintro (⟨before, p, after, key, hplace, hkey, habsent, hfirst, rfl⟩ |
        ⟨hpresent, before, key, after, hplace, hdiffers, hfirst, rfl⟩)
      · exact .missing hplace hkey habsent hfirst
      · exact .unbalanced hpresent hplace hdiffers hfirst
    · intro hfault
      cases hfault with
      | missing hplace hkey habsent hfirst =>
        exact .inl ⟨_, _, _, _, hplace, hkey, habsent, hfirst, rfl⟩
      | unbalanced hpresent hplace hdiffers hfirst =>
        exact .inr ⟨hpresent, _, _, _, hplace, hdiffers, hfirst, rfl⟩

/-- Saveable keys pass in plain mode, and in persistent mode where both sides carry the same multiset of
them. A failure is the first fault of the keys, with its true counts, and comes before all other problems
of the holder. -/
theorem saveable_key_check_exact (h : Holder) (run : InjectionMode) :
    (h.saveableKeyProblem? = none ↔
      h.mode = .plain ∨ (h.paramKeys : Multiset String) = h.propertyKeys) ∧
    (∀ problem, h.saveableKeyProblem? = some problem ↔ h.mode = .persistent ∧ h.KeyFault problem) ∧
    (∀ problem, h.saveableKeyProblem? = some problem → h.problem? run = some problem) := by
  refine ⟨?_, fun problem => saveableKeyProblem?_eq_some_iff, fun problem hproblem => ?_⟩
  · rw [Multiset.coe_eq_coe]
    exact saveableKeyProblem?_eq_none_iff
  · rw [problem?, hproblem]
    rfl

def ledger : Holder where
  qualifiedName := "app.Ledger"
  package := "app"
  params := [⟨"x", .named "Int", .required, false, some "A"⟩,
    ⟨"y", .named "Int", .required, false, some "b"⟩, ⟨"z", .named "Int", .required, true, some "b"⟩,
    ⟨"log", .named "Log", .customProvide "" [], false, none⟩,
    ⟨"w", .named "Int", .required, false, some "a"⟩]
  savedProperties := [⟨"p", "a"⟩, ⟨"q", "b"⟩, ⟨"r", "A"⟩, ⟨"s", "a"⟩]
  injector := none
  mode := .persistent
  injectionMode := none

theorem saveable_key_check_exact_ledger :
    ledger.saveableKeyProblem? = some (.saveableKeyMismatch "app.Ledger" "b" 2 1) ∧
    ledger.problem? .none = some (.saveableKeyMismatch "app.Ledger" "b" 2 1) ∧
    ledger.KeyFault (.saveableKeyMismatch "app.Ledger" "b" 2 1) := by
  have hproblem : ledger.saveableKeyProblem? =
      some (.saveableKeyMismatch "app.Ledger" "b" 2 1) := by decide
  obtain ⟨-, hfault, hfirst⟩ := saveable_key_check_exact ledger .none
  exact ⟨hproblem, hfirst _ hproblem, ((hfault _).mp hproblem).2⟩

end StateHolders.Holder
