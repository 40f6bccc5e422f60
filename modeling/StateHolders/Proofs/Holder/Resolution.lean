import StateHolders.Holder.Defaults
import StateHolders.Proofs.Except
import StateHolders.Proofs.Holder.SaveableKeys

/-! The checks of a holder against the choice of its defaults. Both ask the same of every parameter,
the checks in one pass for each question and the choice in a single one, so the holders that have
all their defaults are those that pass the two checks. -/

namespace StateHolders

namespace Param

open Holder (lacksInjection lacksProvider)

/-! What the checks ask of a parameter decides whether it has a default, and which error it has
instead. A policy lacks one thing at most. -/

theorem default?_of_lacksInjection {ctx : DefaultContext} {p : Param}
    (h : lacksInjection ctx.injector ctx.mode p.policy = true) :
    p.default? ctx = .error (.unresolvableDefault ctx.holder p.name p.policy.kind) := by
  cases hpolicy : p.policy with
  | frameworkInject args =>
    have hmode : ctx.mode.allowsFramework = false := by simpa [lacksInjection, hpolicy] using h
    simp [default?, hpolicy, hmode]
  | namedInject args =>
    obtain ⟨hinjector, hmode⟩ : ctx.injector = none ∧ ctx.mode.allowsFramework = false := by
      simpa [lacksInjection, hpolicy] using h
    simp [default?, hpolicy, hinjector, hmode]
  | _ => simp [lacksInjection, hpolicy] at h

theorem default?_of_lacksProvider (ctx : DefaultContext) {p : Param}
    (h : lacksProvider p.policy = true) :
    p.default? ctx = .error (.missingProviderName ctx.holder p.name) := by
  cases hpolicy : p.policy with
  | customProvide provider args =>
    have hblank : Text.isBlankText provider = true := by simpa [lacksProvider, hpolicy] using h
    simp [default?, hpolicy, hblank]
  | _ => simp [lacksProvider, hpolicy] at h

theorem exists_default?_of_lacksNothing {ctx : DefaultContext} {p : Param}
    (hinjection : lacksInjection ctx.injector ctx.mode p.policy = false)
    (hprovider : lacksProvider p.policy = false) : ∃ d, p.default? ctx = .ok d := by
  cases hpolicy : p.policy with
  | frameworkInject args =>
    have hmode : ctx.mode.allowsFramework = true := by
      simpa [lacksInjection, hpolicy] using hinjection
    simp [default?, hpolicy, hmode]
  | namedInject args =>
    cases hinjector : ctx.injector with
    | some injector => simp [default?, hpolicy, hinjector]
    | none =>
      have hmode : ctx.mode.allowsFramework = true := by
        simpa [lacksInjection, hpolicy, hinjector] using hinjection
      simp [default?, hpolicy, hinjector, hmode]
  | customProvide provider args =>
    have hblank : Text.isBlankText provider = false := by
      simpa [lacksProvider, hpolicy] using hprovider
    simp [default?, hpolicy, hblank]
  | _ => simp [default?, hpolicy]

theorem exists_default?_eq_ok_iff {ctx : DefaultContext} {p : Param} :
    (∃ d, p.default? ctx = .ok d) ↔
      lacksInjection ctx.injector ctx.mode p.policy = false ∧ lacksProvider p.policy = false := by
  constructor
  · rintro ⟨d, hd⟩
    constructor
    · rw [← Bool.not_eq_true]
      intro h
      rw [default?_of_lacksInjection h] at hd
      cases hd
    · rw [← Bool.not_eq_true]
      intro h
      rw [default?_of_lacksProvider ctx h] at hd
      cases hd
  · exact fun h => exists_default?_of_lacksNothing h.1 h.2

theorem default?_eq_none_iff {ctx : DefaultContext} {p : Param} {d : Option DefaultExpr}
    (h : p.default? ctx = .ok d) : d = none ↔ p.policy = .required := by
  unfold default? at h
  dsimp only at h
  split at h
  · next hpolicy =>
    cases h
    simp [hpolicy]
  all_goals
    next hpolicy =>
    -- the other policies give an expression or an error
    have hd : d ≠ none := by
      rintro rfl
      repeat' split at h
      all_goals cases h
    simp [hd, hpolicy]

end Param

namespace Holder

variable {h : Holder} {run : InjectionMode}

theorem injectionProblem?_eq_none_iff {mode : InjectionMode} :
    h.injectionProblem? mode = none ↔
      ∀ p ∈ h.params, lacksInjection h.injector mode p.policy = false := by
  simp [injectionProblem?, List.findSome?_eq_none_iff]

theorem providerProblem?_eq_none_iff :
    h.providerProblem? = none ↔ ∀ p ∈ h.params, lacksProvider p.policy = false := by
  simp [providerProblem?, List.findSome?_eq_none_iff]

theorem exists_param_of_injectionProblem? {problem : Problem}
    (hproblem : h.injectionProblem? (h.effectiveMode run) = some problem) :
    ∃ p ∈ h.params, p.default? (h.defaultContext run) = .error problem := by
  obtain ⟨p, hp, hfound⟩ := List.exists_of_findSome?_eq_some hproblem
  split at hfound
  · next hlacks =>
    cases hfound
    exact ⟨p, hp, Param.default?_of_lacksInjection hlacks⟩
  · cases hfound

theorem exists_param_of_providerProblem? {problem : Problem}
    (hproblem : h.providerProblem? = some problem) :
    ∃ p ∈ h.params, p.default? (h.defaultContext run) = .error problem := by
  obtain ⟨p, hp, hfound⟩ := List.exists_of_findSome?_eq_some hproblem
  split at hfound
  · next hlacks =>
    cases hfound
    exact ⟨p, hp, Param.default?_of_lacksProvider (h.defaultContext run) hlacks⟩
  · cases hfound

theorem resolve_eq_ok_iff {c : ResolvedHolder} :
    h.resolve run = .ok c ↔
      c.holder = h ∧ h.params.mapM (Param.default? (h.defaultContext run)) = .ok c.defaults := by
  obtain ⟨holder, defaults⟩ := c
  rw [resolve]
  cases h.params.mapM (Param.default? (h.defaultContext run)) with
  | error e => simp [Except.map]
  | ok ds => simp [Except.map, eq_comm]

theorem exists_resolve_eq_ok_iff :
    (∃ c, h.resolve run = .ok c) ↔
      h.injectionProblem? (h.effectiveMode run) = none ∧ h.providerProblem? = none := by
  have hdefaults : (∃ c, h.resolve run = .ok c) ↔
      ∃ ds, h.params.mapM (Param.default? (h.defaultContext run)) = .ok ds := by
    simp only [resolve_eq_ok_iff]
    exact ⟨fun ⟨c, _, hc⟩ => ⟨c.defaults, hc⟩, fun ⟨ds, hds⟩ => ⟨⟨h, ds⟩, rfl, hds⟩⟩
  rw [hdefaults, exists_mapM_eq_ok_iff, injectionProblem?_eq_none_iff,
    providerProblem?_eq_none_iff, ← forall₂_and]
  refine forall₂_congr fun p _ => ?_
  exact Param.exists_default?_eq_ok_iff

theorem defaults_aligned {c : ResolvedHolder} (hc : h.resolve run = .ok c) :
    List.Forall₂ (fun p d => d = none ↔ p.policy = .required) h.params c.defaults :=
  (mapM_eq_ok_iff.mp (resolve_eq_ok_iff.mp hc).2).imp fun _ _ => Param.default?_eq_none_iff

theorem saveableKeyProblem?_of_plain (hmode : h.mode = .plain) : h.saveableKeyProblem? = none := by
  rw [saveableKeyProblem?, hmode]

end Holder
end StateHolders
