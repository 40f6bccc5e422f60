import StateHolders.Proofs.Holder.Extraction
import StateHolders.Proofs.Holder.KeyReport

/-! Which problems are raised. Extraction looks at one parameter at a time and then at the injectors; each
check of a holder reports one kind of problem. All of them name the class, and each of these steps has
codes of its own. -/

namespace StateHolders

namespace Holder

variable {h : Holder} {run mode : InjectionMode} {problem : Problem}

theorem extracted_of_ofDeclaration {d : Declaration} {problems : List Problem}
    (hd : ofDeclaration d = .error problems) (hproblem : problem ∈ problems) :
    problem.holder = d.qualifiedName ∧ problem.code.phase = .extraction := by
  obtain ⟨-, rfl⟩ := Declaration.ofDeclaration_eq_error_iff.mp hd
  rcases List.mem_append.mp hproblem with hparam | hinjector
  · obtain ⟨p, -, hoffence⟩ := Declaration.exists_offence hparam
    cases hoffence <;> exact ⟨rfl, rfl⟩
  · rw [Declaration.mem_injectorProblems hinjector]
    exact ⟨rfl, rfl⟩

theorem phase_of_ofDeclaration_eq_error {d : Declaration} {problems : List Problem}
    (hd : ofDeclaration d = .error problems) (hproblem : problem ∈ problems) :
    problem.code.phase = .extraction :=
  (extracted_of_ofDeclaration hd hproblem).2

theorem injectionProblem?_eq_some (hproblem : h.injectionProblem? mode = some problem) :
    ∃ p ∈ h.params, lacksInjection h.injector mode p.policy = true ∧
      problem = .unresolvableDefault h.qualifiedName p.name p.policy.kind := by
  obtain ⟨p, hp, hfound⟩ := List.exists_of_findSome?_eq_some hproblem
  split at hfound
  · next hlacks =>
    cases hfound
    exact ⟨p, hp, hlacks, rfl⟩
  · cases hfound

theorem providerProblem?_eq_some (hproblem : h.providerProblem? = some problem) :
    ∃ p ∈ h.params, lacksProvider p.policy = true ∧
      problem = .missingProviderName h.qualifiedName p.name := by
  obtain ⟨p, hp, hfound⟩ := List.exists_of_findSome?_eq_some hproblem
  split at hfound
  · next hlacks =>
    cases hfound
    exact ⟨p, hp, hlacks, rfl⟩
  · cases hfound

theorem phase_of_saveableKeyProblem? (hproblem : h.saveableKeyProblem? = some problem) :
    problem.code.phase = .persistence := by
  cases (saveableKeyProblem?_eq_some_iff.mp hproblem).2 <;> rfl

theorem code_of_injectionProblem? (hproblem : h.injectionProblem? mode = some problem) :
    problem.code = .unresolvableDefault := by
  obtain ⟨p, -, -, rfl⟩ := injectionProblem?_eq_some hproblem
  rfl

theorem code_of_providerProblem? (hproblem : h.providerProblem? = some problem) :
    problem.code = .missingProviderName := by
  obtain ⟨p, -, -, rfl⟩ := providerProblem?_eq_some hproblem
  rfl

theorem holder_of_saveableKeyProblem? (hproblem : h.saveableKeyProblem? = some problem) :
    problem.holder = h.qualifiedName := by
  cases (saveableKeyProblem?_eq_some_iff.mp hproblem).2 <;> rfl

theorem holder_of_injectionProblem? (hproblem : h.injectionProblem? mode = some problem) :
    problem.holder = h.qualifiedName := by
  obtain ⟨p, -, -, rfl⟩ := injectionProblem?_eq_some hproblem
  rfl

theorem holder_of_providerProblem? (hproblem : h.providerProblem? = some problem) :
    problem.holder = h.qualifiedName := by
  obtain ⟨p, -, -, rfl⟩ := providerProblem?_eq_some hproblem
  rfl

end Holder
end StateHolders
