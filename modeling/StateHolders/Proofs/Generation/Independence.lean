import Mathlib.Data.List.Forall2
import StateHolders.Proofs.Generation.Run

/-! Classes of one run. What becomes of a declaration is its own affair, so a run over several lists is the
runs over each of them side by side, and every declaration is accounted for once. -/

namespace StateHolders

open Source (File)

theorem ClassOutcome.counted_once (outcomes : List ClassOutcome) :
    outcomes.countP isGenerated + (outcomes.filterMap failure?).length +
      (outcomes.filterMap skipped?).length = outcomes.length := by
  induction outcomes with
  | nil => rfl
  | cons o outcomes ih =>
    rw [List.countP_cons, List.filterMap_cons, List.filterMap_cons, List.length_cons]
    cases o with
    | skipped name =>
      simp only [isGenerated, failure?, skipped?, List.length_cons, Bool.false_eq_true, if_false]
      omega
    | generated files =>
      simp only [isGenerated, failure?, skipped?, if_true]
      omega
    | failed failure =>
      simp only [isGenerated, failure?, skipped?, List.length_cons, Bool.false_eq_true, if_false]
      omega

namespace Run

/-- The run `t` is the runs `rs` side by side. -/
structure Combines (rs : List Run) (t : Run) : Prop where
  files : t.files = rs.flatMap Run.files
  failures : t.failures = rs.flatMap Run.failures
  diagnostics : t.diagnostics = rs.flatMap Run.diagnostics
  generated : t.generated = rs.foldr (fun r count => r.generated + count) 0
  skipped : t.skipped = rs.flatMap Run.skipped
  success : t.success = rs.all Run.success

theorem combines_ofOutcomes (outcomes : List (List ClassOutcome)) :
    Combines (outcomes.map ofOutcomes) (ofOutcomes outcomes.flatten) := by
  have hfiles : (ofOutcomes outcomes.flatten).files =
      (outcomes.map ofOutcomes).flatMap Run.files := by
    rw [List.flatMap_map, List.flatten_eq_flatMap]
    exact List.flatMap_assoc
  have hfailures : (ofOutcomes outcomes.flatten).failures =
      (outcomes.map ofOutcomes).flatMap Run.failures := by
    rw [List.flatMap_map]
    exact List.filterMap_flatten
  have hskipped : (ofOutcomes outcomes.flatten).skipped =
      (outcomes.map ofOutcomes).flatMap Run.skipped := by
    rw [List.flatMap_map]
    exact List.filterMap_flatten
  refine ⟨hfiles, hfailures, ?_, ?_, hskipped, ?_⟩
  · rw [diagnostics, hfailures, List.flatMap_assoc]
    rfl
  · rw [List.foldr_map]
    have hcount := List.countP_flatten (p := ClassOutcome.isGenerated) (l := outcomes)
    rwa [List.sum_eq_foldr, List.foldr_map] at hcount
  · rw [success, hfailures, Bool.eq_iff_iff, List.isEmpty_iff, List.flatMap_eq_nil_iff,
      List.all_eq_true]
    simp only [success, List.isEmpty_iff]

theorem combines_generate (config : Config) (now : Nat) (dss : List (List Declaration)) :
    Combines (dss.map (generate config now)) (generate config now dss.flatten) := by
  have h := combines_ofOutcomes (dss.map fun ds => ds.map fun d =>
    d.outcome config.injectionMode fun c => c.files (stamp? config now))
  rwa [List.map_map, ← List.map_flatten] at h

/-! What a run counts does not depend on what the classes are made into. -/

section

variable (ds : List Declaration) (run : InjectionMode) (emit : ResolvedHolder → List File)

theorem failures_ofOutcomes_map : (ofOutcomes (ds.map (Declaration.outcome · run emit))).failures =
    ds.filterMap fun d => if d.isAnnotated then errorOf? (d.analyze run) else none := by
  change (ds.map _).filterMap ClassOutcome.failure? = _
  rw [List.filterMap_map]
  refine List.filterMap_congr fun d _ => ?_
  rw [Function.comp_apply, Declaration.outcome]
  split
  · cases d.analyze run <;> rfl
  · rfl

theorem generated_ofOutcomes_map :
    (ofOutcomes (ds.map (Declaration.outcome · run emit))).generated =
      (ds.filterMap (Declaration.resolved? · run)).length := by
  change (ds.map _).countP ClassOutcome.isGenerated = _
  rw [List.countP_map, List.length_filterMap_eq_countP]
  refine List.countP_congr fun d _ => ?_
  rw [Function.comp_apply, Declaration.outcome, Declaration.resolved?]
  split
  · cases d.analyze run <;> rfl
  · rfl

theorem skipped_ofOutcomes_map : (ofOutcomes (ds.map (Declaration.outcome · run emit))).skipped =
    (ds.filter (!·.isAnnotated)).map Declaration.qualifiedName := by
  change (ds.map _).filterMap ClassOutcome.skipped? = _
  rw [List.filterMap_map, ← List.filterMap_eq_map, List.filterMap_filter]
  refine List.filterMap_congr fun d _ => ?_
  rw [Function.comp_apply, Declaration.outcome]
  cases d.isAnnotated with
  | true => cases d.analyze run <;> rfl
  | false => rfl

end

theorem forall₂_resolved? (ds : List Declaration) (run : InjectionMode) :
    List.Forall₂ (fun d c => d.analyze run = .ok c ∧ c.holder.qualifiedName = d.qualifiedName ∧
        c.holder.mode = d.mode)
      (ds.filter fun d => (d.resolved? run).isSome) (ds.filterMap (Declaration.resolved? · run)) := by
  induction ds with
  | nil => exact .nil
  | cons d ds ih =>
    cases hd : d.resolved? run with
    | none =>
      rw [List.filter_cons_of_neg (by simp [hd]), List.filterMap_cons, hd]
      exact ih
    | some c =>
      obtain ⟨hname, -, hmode⟩ := Declaration.holder_of_resolved? hd
      rw [List.filter_cons_of_pos (by simp [hd]), List.filterMap_cons, hd]
      exact .cons ⟨Declaration.analyze_of_resolved? hd, hname, hmode⟩ ih

/-- How a run accounts for its declarations. -/
structure Accounts (config : Config) (now : Nat) (ds : List Declaration) : Prop where
  counted : (generate config now ds).generated + (generate config now ds).failures.length +
    (generate config now ds).skipped.length = ds.length
  skipped : (generate config now ds).skipped =
    (ds.filter (!·.isAnnotated)).map Declaration.qualifiedName
  classes : ∃ cs : List ResolvedHolder,
    List.Forall₂ (fun d c => d.analyze config.injectionMode = .ok c ∧
        c.holder.qualifiedName = d.qualifiedName ∧ c.holder.mode = d.mode)
      (ds.filter fun d => (d.resolved? config.injectionMode).isSome) cs ∧
    (generate config now ds).generated = cs.length ∧
    (generate config now ds).files = cs.flatMap fun c =>
      Factory.file c (stamp? config now) ::
        match c.holder.mode with
        | .plain => []
        | .persistent => [Saver.file c (stamp? config now)]
  checked : (check config ds).success = (generate config now ds).success ∧
    (check config ds).failures = (generate config now ds).failures ∧
    (check config ds).generated = (generate config now ds).generated ∧
    (check config ds).skipped = (generate config now ds).skipped ∧ (check config ds).files = []

theorem accounts (config : Config) (now : Nat) (ds : List Declaration) :
    Accounts config now ds := by
  have hfailures : (check config ds).failures = (generate config now ds).failures := by
    rw [check, generate, failures_ofOutcomes_map, failures_ofOutcomes_map]
  have hgenerated : (check config ds).generated = (generate config now ds).generated := by
    rw [check, generate, generated_ofOutcomes_map, generated_ofOutcomes_map]
  have hskipped : (check config ds).skipped = (generate config now ds).skipped := by
    rw [check, generate, skipped_ofOutcomes_map, skipped_ofOutcomes_map]
  have hfiles : (check config ds).files = [] := by
    rw [check, files_ofOutcomes_map]
    exact List.flatMap_eq_nil_iff.mpr fun _ _ => rfl
  exact {
    counted := by
      have h := ClassOutcome.counted_once (ds.map fun d =>
        d.outcome config.injectionMode fun c => c.files (stamp? config now))
      rwa [List.length_map] at h
    skipped := skipped_ofOutcomes_map ds _ _
    classes := ⟨_, forall₂_resolved? ds config.injectionMode, generated_ofOutcomes_map ds _ _,
      files_generate config now ds⟩
    checked := ⟨by rw [success, success, hfailures], hfailures, hgenerated, hskipped, hfiles⟩ }

/-- A run over two lists is the runs over each of them one after the other, and a run is made of what
each of its declarations comes to alone; none of them is lost. -/
theorem declarations_independent (config : Config) (now : Nat) :
    (∀ as bs : List Declaration,
      (generate config now (as ++ bs)).files =
        (generate config now as).files ++ (generate config now bs).files ∧
      (generate config now (as ++ bs)).failures =
        (generate config now as).failures ++ (generate config now bs).failures ∧
      (generate config now (as ++ bs)).skipped =
        (generate config now as).skipped ++ (generate config now bs).skipped ∧
      (generate config now (as ++ bs)).generated =
        (generate config now as).generated + (generate config now bs).generated ∧
      (generate config now (as ++ bs)).success =
        ((generate config now as).success && (generate config now bs).success)) ∧
    (∀ ds : List Declaration,
      Combines (ds.map fun d => generate config now [d]) (generate config now ds)) ∧
    ∀ ds : List Declaration, Accounts config now ds := by
  refine ⟨fun as bs => ?_, fun ds => ?_, accounts config now⟩
  · have h := combines_generate config now [as, bs]
    rw [List.flatten_cons, List.flatten_singleton] at h
    exact ⟨by simpa using h.files, by simpa using h.failures, by simpa using h.skipped,
      by simpa using h.generated, by simpa using h.success⟩
  · have h := combines_generate config now (ds.map ([·]))
    rwa [List.map_map, ← List.flatMap_def, List.flatMap_singleton'] at h

end Run
end StateHolders
