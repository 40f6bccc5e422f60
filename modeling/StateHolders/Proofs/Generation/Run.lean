import StateHolders.Generation
import StateHolders.Proofs.Holder.Resolution

/-! What a run is made of. Each declaration is looked at by itself, so a run's files are those of the
classes that pass all phases, and its failures those of the declarations that do not. -/

namespace StateHolders

namespace Declaration

/-- The class that an annotated declaration becomes, if it passes all phases. -/
def resolved? (d : Declaration) (run : InjectionMode) : Option ResolvedHolder :=
  if d.isAnnotated then (d.analyze run).toOption else none

theorem analyze_eq_ok {d : Declaration} {run : InjectionMode} {c : ResolvedHolder}
    (h : d.analyze run = .ok c) :
    ∃ holder, Holder.ofDeclaration d = .ok holder ∧ holder.problem? run = none ∧
      holder.resolve run = .ok c := by
  unfold analyze at h
  split at h
  · cases h
  · next holder hholder =>
    split at h
    · cases h
    · next hok =>
      cases hc : holder.resolve run with
      | error problem =>
        rw [hc] at h
        cases h
      | ok c' =>
        rw [hc] at h
        cases h
        exact ⟨holder, hholder, hok, hc⟩

theorem analyze_of_resolved? {d : Declaration} {run : InjectionMode} {c : ResolvedHolder}
    (h : d.resolved? run = some c) : d.analyze run = .ok c := by
  unfold resolved? at h
  split at h
  · cases hanalyze : d.analyze run with
    | error f =>
      rw [hanalyze] at h
      cases h
    | ok c' =>
      rw [hanalyze] at h
      cases h
      rfl
  · cases h

theorem holder_of_resolved? {d : Declaration} {run : InjectionMode} {c : ResolvedHolder}
    (h : d.resolved? run = some c) : c.holder.qualifiedName = d.qualifiedName ∧
      c.holder.package = d.package ∧ c.holder.mode = d.mode := by
  obtain ⟨holder, hholder, -, hresolve⟩ := analyze_eq_ok (analyze_of_resolved? h)
  rw [(Holder.resolve_eq_ok_iff.mp hresolve).1]
  exact Holder.eq_of_ofDeclaration hholder

theorem files_outcome (d : Declaration) (run : InjectionMode)
    (emit : ResolvedHolder → List Source.File) :
    (d.outcome run emit).files = (d.resolved? run).elim [] emit := by
  rw [outcome, resolved?]
  split
  · cases d.analyze run <;> rfl
  · rfl

theorem outcome_eq_failed_iff {d : Declaration} {run : InjectionMode} {f : ClassFailure}
    (emit : ResolvedHolder → List Source.File) :
    d.outcome run emit = .failed f ↔ d.isAnnotated = true ∧ d.analyze run = .error f := by
  rw [outcome]
  split
  · next h => cases d.analyze run <;> simp [h]
  · next h => simp [h]

end Declaration

namespace Run

theorem files_ofOutcomes_map (ds : List Declaration) (run : InjectionMode)
    (emit : ResolvedHolder → List Source.File) :
    (ofOutcomes (ds.map (Declaration.outcome · run emit))).files =
      (ds.filterMap (Declaration.resolved? · run)).flatMap emit := by
  change (ds.map (Declaration.outcome · run emit)).flatMap ClassOutcome.files = _
  induction ds with
  | nil => rfl
  | cons d ds ih =>
    rw [List.map_cons, List.flatMap_cons, ih, Declaration.files_outcome, List.filterMap_cons]
    cases d.resolved? run <;> rfl

theorem mem_failures_iff {ds : List Declaration} {run : InjectionMode} {f : ClassFailure}
    (emit : ResolvedHolder → List Source.File) :
    f ∈ (ofOutcomes (ds.map (Declaration.outcome · run emit))).failures ↔
      ∃ d ∈ ds, d.isAnnotated = true ∧ d.analyze run = .error f := by
  change f ∈ (ds.map (Declaration.outcome · run emit)).filterMap ClassOutcome.failure? ↔ _
  rw [List.filterMap_map, List.mem_filterMap]
  refine exists_congr fun d => and_congr_right fun _ => ?_
  rw [← Declaration.outcome_eq_failed_iff emit, Function.comp_apply]
  cases d.outcome run emit <;> simp [ClassOutcome.failure?]

def stamp? (config : Config) (now : Nat) : Option Nat := if config.timestamp then some now else none

theorem files_generate (config : Config) (now : Nat) (ds : List Declaration) :
    (generate config now ds).files =
      (ds.filterMap (Declaration.resolved? · config.injectionMode)).flatMap
        (·.files (stamp? config now)) :=
  files_ofOutcomes_map ds config.injectionMode fun c => c.files (stamp? config now)

theorem mem_failures_generate_iff {config : Config} {now : Nat} {ds : List Declaration}
    {f : ClassFailure} :
    f ∈ (generate config now ds).failures ↔
      ∃ d ∈ ds, d.isAnnotated = true ∧ d.analyze config.injectionMode = .error f :=
  mem_failures_iff fun c => c.files (stamp? config now)

theorem mem_failures_check_iff {config : Config} {ds : List Declaration} {f : ClassFailure} :
    f ∈ (check config ds).failures ↔
      ∃ d ∈ ds, d.isAnnotated = true ∧ d.analyze config.injectionMode = .error f :=
  mem_failures_iff fun _ => []

end Run
end StateHolders
