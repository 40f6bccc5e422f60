import Mathlib.Data.List.Flatten
import StateHolders.Proofs.Generation.Resolution
import StateHolders.Proofs.Holder.Codes

/-! Enabling framework injection. The mode is asked for where a default needs an injection that it does not
have otherwise, so enabling it only takes away that problem: a class that has its defaults keeps them, and
a class that fails for another reason still does. -/

namespace StateHolders

open Source (File)

theorem Param.default?_framework {ctx : DefaultContext} {p : Param} {d : Option DefaultExpr}
    (h : p.default? ctx = .ok d) : p.default? { ctx with mode := .framework } = .ok d := by
  have hlacks := (exists_default?_eq_ok_iff.mp ⟨d, h⟩).1
  have hframework : InjectionMode.framework.allowsFramework = true := rfl
  cases hpolicy : p.policy with
  | frameworkInject args =>
    have hmode : ctx.mode.allowsFramework = true := by
      simpa [Holder.lacksInjection, hpolicy] using hlacks
    simpa [default?, hpolicy, hmode, hframework] using h
  | namedInject args =>
    cases hinjector : ctx.injector with
    | some injector => simpa [default?, hpolicy, hinjector] using h
    | none =>
      have hmode : ctx.mode.allowsFramework = true := by
        simpa [Holder.lacksInjection, hpolicy, hinjector] using hlacks
      simpa [default?, hpolicy, hinjector, hmode, hframework] using h
  | _ => simpa [default?, hpolicy] using h

namespace Holder

variable {h : Holder} {run : InjectionMode} {problem : Problem}

theorem lacksInjection_framework (injector : Option String) (policy : DefaultPolicy) :
    lacksInjection injector .framework policy = false := by
  cases policy <;> simp [lacksInjection, InjectionMode.allowsFramework]

theorem injectionProblem?_framework (h : Holder) : h.injectionProblem? .framework = none :=
  injectionProblem?_eq_none_iff.mpr fun p _ => lacksInjection_framework h.injector p.policy

theorem code_ne_of_effectiveMode (hmode : h.effectiveMode run = .framework)
    (hproblem : h.problem? run = some problem) : problem.code ≠ .unresolvableDefault := by
  intro hcode
  rcases problem?_eq_some hproblem with hkeys | hinjection | hprovider
  · have hphase := phase_of_saveableKeyProblem? hkeys
    rw [hcode] at hphase
    cases hphase
  · rw [hmode, injectionProblem?_framework] at hinjection
    cases hinjection
  · rw [code_of_providerProblem? hprovider] at hcode
    cases hcode

theorem effectiveMode_cases (h : Holder) :
    h.effectiveMode .framework = h.effectiveMode .none ∨ h.effectiveMode .framework = .framework := by
  unfold effectiveMode
  cases h.injectionMode with
  | none => exact .inr rfl
  | some mode => exact .inl rfl

theorem injectionProblem?_framework_of_none
    (hnone : h.injectionProblem? (h.effectiveMode .none) = none) :
    h.injectionProblem? (h.effectiveMode .framework) = none := by
  rcases h.effectiveMode_cases with hmode | hmode
  · rwa [hmode]
  · rw [hmode, injectionProblem?_framework]

theorem problem?_framework_eq_none (hok : h.problem? .none = none) : h.problem? .framework = none := by
  obtain ⟨hkeys, hinjection, hprovider⟩ := problem?_eq_none_iff.mp hok
  exact problem?_eq_none_iff.mpr ⟨hkeys, injectionProblem?_framework_of_none hinjection, hprovider⟩

theorem problem?_framework_eq_some (hproblem : h.problem? .none = some problem)
    (hcode : problem.code ≠ .unresolvableDefault) : h.problem? .framework = some problem := by
  simp only [problem?, Option.orElse_eq_orElse, Option.orElse_eq_or, Option.or_eq_some_iff]
    at hproblem ⊢
  rcases hproblem with hkeys | ⟨hkeys, hinjection | ⟨hinjection, hprovider⟩⟩
  · exact .inl hkeys
  · exact absurd (code_of_injectionProblem? hinjection) hcode
  · exact .inr ⟨hkeys, .inr ⟨injectionProblem?_framework_of_none hinjection, hprovider⟩⟩

theorem resolve_framework {c : ResolvedHolder} (hc : h.resolve .none = .ok c) :
    h.resolve .framework = .ok c := by
  obtain ⟨hholder, hdefaults⟩ := resolve_eq_ok_iff.mp hc
  refine resolve_eq_ok_iff.mpr ⟨hholder, ?_⟩
  rcases h.effectiveMode_cases with hmode | hmode
  · rwa [defaultContext, hmode]
  · rw [mapM_eq_ok_iff] at hdefaults ⊢
    refine hdefaults.imp fun p d hd => ?_
    have hframework := Param.default?_framework hd
    rwa [defaultContext, hmode]

theorem problem?_congr {run' : InjectionMode} (hmode : h.effectiveMode run = h.effectiveMode run') :
    h.problem? run = h.problem? run' := by
  rw [problem?, problem?, hmode]

theorem resolve_congr {run' : InjectionMode} (hmode : h.effectiveMode run = h.effectiveMode run') :
    h.resolve run = h.resolve run' := by
  rw [resolve, resolve, defaultContext, defaultContext, hmode]

end Holder

def ClassFailure.LacksInjection (f : ClassFailure) : Prop :=
  f.phase = .validate ∧ ∃ g ∈ f.diagnostics, g.code = .unresolvableDefault

namespace Declaration

variable {d : Declaration} {run : InjectionMode} {f : ClassFailure}

theorem analyze_framework_of_ok {c : ResolvedHolder} (h : d.analyze .none = .ok c) :
    d.analyze .framework = .ok c := by
  obtain ⟨holder, hholder, hok, hc⟩ := analyze_eq_ok h
  have hchecked := Holder.problem?_framework_eq_none hok
  have hresolved := Holder.resolve_framework hc
  simp only [analyze, hholder, hchecked, hresolved]
  rfl

theorem resolved?_framework {c : ResolvedHolder} (h : d.resolved? .none = some c) :
    d.resolved? .framework = some c := by
  have hc := analyze_framework_of_ok (analyze_of_resolved? h)
  unfold resolved? at h ⊢
  split at h
  · next hannotated => rw [if_pos hannotated, hc]; rfl
  · cases h

theorem analyze_framework_of_error (h : d.analyze .none = .error f) (hf : ¬f.LacksInjection) :
    d.analyze .framework = .error f := by
  rcases analyze_eq_error h with ⟨problems, hproblems, rfl⟩ | ⟨holder, problem, hholder, hproblem, rfl⟩
  · simp only [analyze, hproblems]
  · have hcode : problem.code ≠ .unresolvableDefault := fun hcode =>
      hf ⟨rfl, problem.diagnostic, by simp [ClassFailure.diagnostics], hcode⟩
    simp only [analyze, hholder, Holder.problem?_framework_eq_some hproblem hcode]

theorem analyze_eq_of_marked {mode : InjectionMode} (h : .injectionMode mode ∈ d.markers)
    (run run' : InjectionMode) : d.analyze run = d.analyze run' := by
  have hmodes : d.markers.filterMap ClassMarker.injectionMode? ≠ [] :=
    List.ne_nil_of_mem (List.mem_filterMap.mpr ⟨_, h, rfl⟩)
  obtain ⟨last, hlast⟩ := Option.ne_none_iff_exists'.mp (mt List.getLast?_eq_none_iff.mp hmodes)
  rw [analyze, analyze]
  cases hholder : Holder.ofDeclaration d with
  | error problems => rfl
  | ok holder =>
    have hmode : holder.effectiveMode run = holder.effectiveMode run' := by
      rw [Holder.effectiveMode, Holder.effectiveMode, Holder.injectionMode_ofDeclaration hholder,
        injectionMode?, hlast]
      rfl
    simp only [Holder.problem?_congr hmode, Holder.resolve_congr hmode]

theorem code_ne_of_analyze (hmode : d.injectionMode?.getD run = .framework)
    (h : d.analyze run = .error f) : ∀ g ∈ f.diagnostics, g.code ≠ .unresolvableDefault := by
  rcases analyze_eq_error h with ⟨problems, hproblems, rfl⟩ | ⟨holder, problem, hholder, hproblem, rfl⟩
  · refine List.forall_mem_map.mpr fun problem hproblem hcode => ?_
    have hphase := Holder.phase_of_ofDeclaration_eq_error hproblems hproblem
    rw [show problem.code = _ from hcode] at hphase
    cases hphase
  · have heffective : holder.effectiveMode run = .framework := by
      rw [Holder.effectiveMode, Holder.injectionMode_ofDeclaration hholder, hmode]
    exact List.forall_mem_singleton.mpr (Holder.code_ne_of_effectiveMode heffective hproblem)

/-- What enabling the framework's injection changes for a class: it may gain its files. -/
structure FrameworkOnlyAdds (d : Declaration) (emit : ResolvedHolder → List File) : Prop where
  generated : ∀ files, d.outcome .none emit = .generated files →
    d.outcome .framework emit = .generated files
  failed : ∀ f, d.outcome .none emit = .failed f → ¬f.LacksInjection →
    d.outcome .framework emit = .failed f
  skipped : ∀ name, d.outcome .none emit = .skipped name ↔ d.outcome .framework emit = .skipped name
  marked : ∀ mode, .injectionMode mode ∈ d.markers →
    d.outcome .none emit = d.outcome .framework emit
  injected : ∀ run f, d.injectionMode?.getD run = .framework → d.outcome run emit = .failed f →
    ∀ g ∈ f.diagnostics, g.code ≠ .unresolvableDefault

theorem outcome_eq_generated_iff {files : List File} (emit : ResolvedHolder → List File) :
    d.outcome run emit = .generated files ↔
      d.isAnnotated = true ∧ ∃ c, d.analyze run = .ok c ∧ emit c = files := by
  rw [outcome]
  split
  · next h => cases d.analyze run <;> simp [h]
  · next h => simp [h]

theorem outcome_eq_skipped_iff {name : String} (emit : ResolvedHolder → List File) :
    d.outcome run emit = .skipped name ↔ d.isAnnotated = false ∧ d.qualifiedName = name := by
  rw [outcome]
  split
  · next h => cases d.analyze run <;> simp [h]
  · next h => simp [h]

theorem frameworkOnlyAdds (d : Declaration) (emit : ResolvedHolder → List File) :
    d.FrameworkOnlyAdds emit where
  generated files h := by
    obtain ⟨hannotated, c, hc, hfiles⟩ := (outcome_eq_generated_iff emit).mp h
    exact (outcome_eq_generated_iff emit).mpr ⟨hannotated, c, analyze_framework_of_ok hc, hfiles⟩
  failed f h hf := by
    obtain ⟨hannotated, herror⟩ := (outcome_eq_failed_iff emit).mp h
    exact (outcome_eq_failed_iff emit).mpr ⟨hannotated, analyze_framework_of_error herror hf⟩
  skipped name := by
    rw [outcome_eq_skipped_iff, outcome_eq_skipped_iff]
  marked mode h := by
    rw [outcome, outcome, analyze_eq_of_marked h .none .framework]
  injected run f hmode h := code_ne_of_analyze hmode ((outcome_eq_failed_iff emit).mp h).2

end Declaration

namespace Run

theorem sublist_resolved?_framework (ds : List Declaration) :
    (ds.filterMap (Declaration.resolved? · .none)).Sublist
      (ds.filterMap (Declaration.resolved? · .framework)) := by
  induction ds with
  | nil => exact .slnil
  | cons d ds ih =>
    rw [List.filterMap_cons, List.filterMap_cons]
    cases hnone : d.resolved? .none with
    | none =>
      cases d.resolved? .framework with
      | none => exact ih
      | some c => exact ih.cons c
    | some c =>
      rw [Declaration.resolved?_framework hnone]
      exact ih.cons_cons c

end Run

/-- Enabling the framework's injection for a run takes no file away and changes none, and it is felt only
by the classes that lacked an injection. -/
theorem framework_injection_monotone (config : Config) (now : Nat) (ds : List Declaration) :
    (∀ mode, Run.generate { config with injectionMode := mode } now ds =
      Run.ofOutcomes (ds.map fun d => d.outcome mode (·.files (Run.stamp? config now)))) ∧
    (∀ d ∈ ds, d.FrameworkOnlyAdds (·.files (Run.stamp? config now))) ∧
    (Run.generate { config with injectionMode := .none } now ds).files.Sublist
      (Run.generate { config with injectionMode := .framework } now ds).files := by
  refine ⟨fun mode => rfl, fun d _ => d.frameworkOnlyAdds _, ?_⟩
  rw [Run.files_generate, Run.files_generate]
  exact (Run.sublist_resolved?_framework ds).flatMap _

end StateHolders
