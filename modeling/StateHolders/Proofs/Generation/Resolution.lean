import StateHolders.Proofs.Generation.Run
import StateHolders.Proofs.Holder.Resolution

/-! Defaults are chosen only for holders that have passed their checks, and such a holder has them
all, so no run fails in that phase. -/

namespace StateHolders

/-- How the checks of a holder and the choice of its defaults agree in a run. -/
structure Holder.ChecksDecideDefaults (h : Holder) (run : InjectionMode) : Prop where
  resolves_iff : (∃ c, h.resolve run = .ok c) ↔
    h.injectionProblem? (h.effectiveMode run) = none ∧ h.providerProblem? = none
  resolves_of_checked : h.problem? run = none → ∃ c, h.resolve run = .ok c
  plain_iff : h.mode = .plain → (h.problem? run = none ↔ ∃ c, h.resolve run = .ok c)
  persistent_iff : h.mode = .persistent →
    (h.problem? run = none ↔ (∃ c, h.resolve run = .ok c) ∧ h.saveableKeyProblem? = none)
  problem_of_param : ∀ problem,
    h.injectionProblem? (h.effectiveMode run) = some problem ∨ h.providerProblem? = some problem →
      ∃ p ∈ h.params, p.default? (h.defaultContext run) = .error problem
  reported : ∀ problem, h.problem? run = some problem →
    h.saveableKeyProblem? = some problem ∨
      ∃ p ∈ h.params, p.default? (h.defaultContext run) = .error problem
  aligned : ∀ c, h.resolve run = .ok c → c.holder = h ∧ c.defaults.length = h.params.length ∧
    ∀ (i : Nat) (p : Param) (d : Option DefaultExpr), h.params[i]? = some p →
      c.defaults[i]? = some d → (d = none ↔ p.policy = .required)

namespace Holder

variable {h : Holder} {run : InjectionMode}

theorem exists_resolve_of_problem?_eq_none (hok : h.problem? run = none) :
    ∃ c, h.resolve run = .ok c :=
  exists_resolve_eq_ok_iff.mpr (problem?_eq_none_iff.mp hok).2

theorem problem?_eq_none_iff_resolves : h.problem? run = none ↔
    (∃ c, h.resolve run = .ok c) ∧ h.saveableKeyProblem? = none := by
  rw [problem?_eq_none_iff, exists_resolve_eq_ok_iff, and_comm]

theorem problem?_eq_some {problem : Problem} (hproblem : h.problem? run = some problem) :
    h.saveableKeyProblem? = some problem ∨
      h.injectionProblem? (h.effectiveMode run) = some problem ∨
      h.providerProblem? = some problem := by
  simp only [problem?, Option.orElse_eq_orElse, Option.orElse_eq_or, Option.or_eq_some_iff]
    at hproblem
  rcases hproblem with hkeys | ⟨-, hinjection | ⟨-, hprovider⟩⟩
  · exact .inl hkeys
  · exact .inr (.inl hinjection)
  · exact .inr (.inr hprovider)

theorem exists_param_of_problem? {problem : Problem}
    (hproblem : h.injectionProblem? (h.effectiveMode run) = some problem ∨
      h.providerProblem? = some problem) :
    ∃ p ∈ h.params, p.default? (h.defaultContext run) = .error problem :=
  hproblem.elim exists_param_of_injectionProblem? exists_param_of_providerProblem?

theorem defaults_getElem? {c : ResolvedHolder} (hc : h.resolve run = .ok c) {i : Nat} {p : Param}
    {d : Option DefaultExpr} (hp : h.params[i]? = some p) (hd : c.defaults[i]? = some d) :
    d = none ↔ p.policy = .required := by
  obtain ⟨hi, rfl⟩ := List.getElem?_eq_some_iff.mp hp
  obtain ⟨hj, rfl⟩ := List.getElem?_eq_some_iff.mp hd
  exact (List.forall₂_iff_get.mp (defaults_aligned hc)).2 i hi hj

end Holder

namespace Declaration

variable {d : Declaration} {run : InjectionMode} {f : ClassFailure}

theorem analyze_eq_error (hf : d.analyze run = .error f) :
    (∃ problems, Holder.ofDeclaration d = .error problems ∧
      f = ⟨d.qualifiedName, .extract, problems⟩) ∨
    ∃ h problem, Holder.ofDeclaration d = .ok h ∧ h.problem? run = some problem ∧
      f = ⟨d.qualifiedName, .validate, [problem]⟩ := by
  rw [analyze] at hf
  split at hf
  · next problems hproblems =>
    cases hf
    exact .inl ⟨problems, hproblems, rfl⟩
  · next h hholder =>
    split at hf
    · next problem hproblem =>
      cases hf
      exact .inr ⟨h, problem, hholder, hproblem, rfl⟩
    · next hok =>
      obtain ⟨c, hc⟩ := Holder.exists_resolve_of_problem?_eq_none hok
      rw [hc] at hf
      cases hf

theorem phase_of_analyze (hf : d.analyze run = .error f) : f.phase ≠ .resolve := by
  rcases analyze_eq_error hf with ⟨problems, -, rfl⟩ | ⟨h, problem, -, -, rfl⟩
  · exact nofun
  · exact nofun

end Declaration

/-- The two checks of every holder accept exactly what its defaults can be chosen for, and with the
same problems where they cannot; so no run fails where it chooses defaults. -/
theorem checks_decide_defaults :
    (∀ (h : Holder) (run : InjectionMode), h.ChecksDecideDefaults run) ∧
    ∀ (config : Config) (now : Nat) (ds : List Declaration) (f : ClassFailure),
      f ∈ (Run.generate config now ds).failures ∨ f ∈ (Run.check config ds).failures →
        f.phase ≠ .resolve := by
  refine ⟨fun h run => ?_, fun config now ds f hf => ?_⟩
  · exact {
      resolves_iff := Holder.exists_resolve_eq_ok_iff
      resolves_of_checked := Holder.exists_resolve_of_problem?_eq_none
      plain_iff := fun hmode => by
        rw [Holder.problem?_eq_none_iff_resolves, Holder.saveableKeyProblem?_of_plain hmode]
        exact and_iff_left rfl
      persistent_iff := fun _ => Holder.problem?_eq_none_iff_resolves
      problem_of_param := fun _ => Holder.exists_param_of_problem?
      reported := fun _ hproblem =>
        (Holder.problem?_eq_some hproblem).imp_right Holder.exists_param_of_problem?
      aligned := fun c hc => ⟨(Holder.resolve_eq_ok_iff.mp hc).1,
        (Holder.defaults_aligned hc).length_eq.symm, fun _ _ _ => Holder.defaults_getElem? hc⟩ }
  · rw [Run.mem_failures_generate_iff, Run.mem_failures_check_iff, or_self] at hf
    obtain ⟨d, -, -, hd⟩ := hf
    exact Declaration.phase_of_analyze hd

end StateHolders
