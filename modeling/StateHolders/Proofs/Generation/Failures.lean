import StateHolders.Proofs.Generation.Resolution
import StateHolders.Proofs.Holder.Codes

/-! What a failed class is reported as. A class fails with at least one problem; every problem names the
class in its message and points at it, and its code tells where the class failed. So a run succeeds
just where it has no error to show. -/

namespace StateHolders

namespace ErrorCode

theorem phase_eq_extraction_iff {code : ErrorCode} :
    code.phase = .extraction ↔ code.text ∈ ["E1001", "E1002", "E1003"] := by
  cases code <;> decide

theorem phase_eq_persistence_iff {code : ErrorCode} :
    code.phase = .persistence ↔ code.text ∈ ["E3001", "E3002"] := by
  cases code <;> decide

theorem phase_eq_inputOutput_iff {code : ErrorCode} :
    code.phase = .inputOutput ↔ "E9".toList <+: code.text.toList := by
  cases code <;> decide

theorem text_mem_of_phase {code : ErrorCode}
    (h : code.phase = .resolution ∨ code.phase = .persistence) :
    code.text ∈ ["E2001", "E2002", "E3001", "E3002"] := by
  cases code <;> revert h <;> decide

end ErrorCode

def Mentions (text name : String) : Prop := ∃ before after, text = before ++ name ++ after

theorem mentions_append (before name : String) : Mentions (before ++ name) name :=
  ⟨before, "", String.append_empty.symm⟩

theorem Mentions.append {text name : String} (h : Mentions text name) (s : String) :
    Mentions (text ++ s) name := by
  obtain ⟨before, after, rfl⟩ := h
  exact ⟨before, after ++ s, String.append_assoc⟩

namespace Problem

theorem mentions_message (p : Problem) : Mentions p.message p.holder := by
  cases p with
  | conflictingDefaultPolicy holder param markers =>
    exact ((mentions_append _ holder).append _).append _
  | invalidAmbientScopeUsage holder param => exact (mentions_append _ holder).append _
  | conflictingInjector holder names => exact ((mentions_append _ holder).append _).append _
  | unresolvableDefault holder param policy =>
    exact (((mentions_append _ holder).append _).append _).append _
  | missingProviderName holder param => exact (mentions_append _ holder).append _
  | saveableKeyMismatch holder key paramCount propertyCount =>
    exact (((((((mentions_append _ holder).append _).append _).append _).append _).append _).append
      _).append _
  | missingSaveableProperty holder param key =>
    exact (((((mentions_append _ holder).append _).append _).append _).append _).append _

theorem exists_primary_label (p : Problem) :
    ∃ l ∈ p.labels, l.isPrimary = true ∧ l.location.subject = p.holder := by
  cases p with
  | unresolvableDefault holder param policy => exact ⟨_, List.mem_cons_self, rfl, rfl⟩
  | missingSaveableProperty holder param key => exact ⟨_, List.mem_cons_self, rfl, rfl⟩
  | _ => exact ⟨_, List.mem_singleton_self _, rfl, rfl⟩

end Problem

/-- The failure is that of the declaration: all that is reported points at the class, and the codes are
those of the phase that the class failed in. -/
structure ClassFailure.IsAttributedTo (f : ClassFailure) (d : Declaration) : Prop where
  holder : f.holder = d.qualifiedName
  reported : f.diagnostics ≠ []
  severity : ∀ g ∈ f.diagnostics, g.severity = .error
  labelled : ∀ g ∈ f.diagnostics,
    ∃ l ∈ g.labels, l.isPrimary = true ∧ l.location.subject = d.qualifiedName
  named : ∀ g ∈ f.diagnostics, Mentions g.message d.qualifiedName
  phase : f.phase = .extract ∨ f.phase = .validate
  extracted : f.phase = .extract →
    ∀ g ∈ f.diagnostics, g.code.text ∈ ["E1001", "E1002", "E1003"]
  validated : f.phase = .validate →
    ∃ g, f.diagnostics = [g] ∧ g.code.text ∈ ["E2001", "E2002", "E3001", "E3002"]
  persistent : ∀ g ∈ f.diagnostics, g.code.text ∈ ["E3001", "E3002"] →
    .rememberSaveable ∈ d.markers
  notDriver : ∀ g ∈ f.diagnostics, ¬"E9".toList <+: g.code.text.toList

namespace Holder

variable {h : Holder} {run : InjectionMode} {problem : Problem}

theorem holder_of_problem? (hproblem : h.problem? run = some problem) :
    problem.holder = h.qualifiedName := by
  rcases problem?_eq_some hproblem with hkeys | hinjection | hprovider
  · exact holder_of_saveableKeyProblem? hkeys
  · exact holder_of_injectionProblem? hinjection
  · exact holder_of_providerProblem? hprovider

theorem phase_of_problem? (hproblem : h.problem? run = some problem) :
    problem.code.phase = .persistence ∧ h.mode = .persistent ∨
      problem.code.phase = .resolution := by
  rcases problem?_eq_some hproblem with hkeys | hinjection | hprovider
  · exact .inl ⟨phase_of_saveableKeyProblem? hkeys, (saveableKeyProblem?_eq_some_iff.mp hkeys).1⟩
  · rw [code_of_injectionProblem? hinjection]
    exact .inr rfl
  · rw [code_of_providerProblem? hprovider]
    exact .inr rfl

end Holder

namespace Declaration

variable {d : Declaration} {run : InjectionMode} {f : ClassFailure}

theorem rememberSaveable_mem_of_mode (hmode : d.mode = .persistent) :
    .rememberSaveable ∈ d.markers := by
  unfold mode at hmode
  split at hmode
  · next hmem => exact hmem
  · cases hmode

theorem isAttributedTo_of_ofDeclaration {problems : List Problem}
    (hd : Holder.ofDeclaration d = .error problems) :
    ClassFailure.IsAttributedTo ⟨d.qualifiedName, .extract, problems⟩ d := by
  have hholder : ∀ problem ∈ problems, problem.holder = d.qualifiedName := fun _ hproblem =>
    (Holder.extracted_of_ofDeclaration hd hproblem).1
  have hcode : ∀ problem ∈ problems, problem.code.phase = .extraction := fun _ hproblem =>
    (Holder.extracted_of_ofDeclaration hd hproblem).2
  have hne : problems ≠ [] := by
    obtain ⟨hne, rfl⟩ := ofDeclaration_eq_error_iff.mp hd
    exact hne
  exact {
    holder := rfl
    reported := by simpa [ClassFailure.diagnostics] using hne
    severity := List.forall_mem_map.mpr fun _ _ => rfl
    labelled := List.forall_mem_map.mpr fun problem hproblem =>
      hholder problem hproblem ▸ problem.exists_primary_label
    named := List.forall_mem_map.mpr fun problem hproblem =>
      hholder problem hproblem ▸ problem.mentions_message
    phase := .inl rfl
    extracted := fun _ => List.forall_mem_map.mpr fun problem hproblem =>
      ErrorCode.phase_eq_extraction_iff.mp (hcode problem hproblem)
    validated := nofun
    persistent := List.forall_mem_map.mpr fun problem hproblem hkeys => by
      have hphase := ErrorCode.phase_eq_persistence_iff.mpr hkeys
      rw [show problem.diagnostic.code = problem.code from rfl, hcode problem hproblem] at hphase
      cases hphase
    notDriver := List.forall_mem_map.mpr fun problem hproblem hdriver => by
      have hphase := ErrorCode.phase_eq_inputOutput_iff.mpr hdriver
      rw [show problem.diagnostic.code = problem.code from rfl, hcode problem hproblem] at hphase
      cases hphase }

theorem isAttributedTo_of_problem? {h : Holder} {problem : Problem}
    (hd : Holder.ofDeclaration d = .ok h) (hproblem : h.problem? run = some problem) :
    ClassFailure.IsAttributedTo ⟨d.qualifiedName, .validate, [problem]⟩ d := by
  have hholder : problem.holder = d.qualifiedName := by
    rw [Holder.holder_of_problem? hproblem, (Holder.eq_of_ofDeclaration hd).1]
  have hphase := Holder.phase_of_problem? hproblem
  exact {
    holder := rfl
    reported := List.cons_ne_nil _ _
    severity := List.forall_mem_singleton.mpr rfl
    labelled := List.forall_mem_singleton.mpr (hholder ▸ problem.exists_primary_label)
    named := List.forall_mem_singleton.mpr (hholder ▸ problem.mentions_message)
    phase := .inr rfl
    extracted := nofun
    validated := fun _ => ⟨problem.diagnostic, rfl,
      ErrorCode.text_mem_of_phase (hphase.symm.imp_right And.left)⟩
    persistent := List.forall_mem_singleton.mpr fun hkeys => by
      rcases hphase with ⟨-, hmode⟩ | hresolution
      · rw [Holder.mode_ofDeclaration hd] at hmode
        exact rememberSaveable_mem_of_mode hmode
      · have hpersistence := ErrorCode.phase_eq_persistence_iff.mpr hkeys
        rw [show problem.diagnostic.code = problem.code from rfl, hresolution] at hpersistence
        cases hpersistence
    notDriver := List.forall_mem_singleton.mpr fun hdriver => by
      have hdriver := ErrorCode.phase_eq_inputOutput_iff.mpr hdriver
      rw [show problem.diagnostic.code = problem.code from rfl] at hdriver
      rcases hphase with ⟨hphase, -⟩ | hphase <;> rw [hphase] at hdriver <;> cases hdriver }

theorem isAttributedTo_of_analyze (hf : d.analyze run = .error f) : f.IsAttributedTo d := by
  rcases analyze_eq_error hf with ⟨problems, hd, rfl⟩ | ⟨h, problem, hd, hproblem, rfl⟩
  · exact isAttributedTo_of_ofDeclaration hd
  · exact isAttributedTo_of_problem? hd hproblem

end Declaration

namespace Run

variable {r : Run}

def FailuresAttributed (r : Run) : Prop := ∀ f ∈ r.failures, ∃ d, f.IsAttributedTo d

theorem failuresAttributed_generate (config : Config) (now : Nat) (ds : List Declaration) :
    (generate config now ds).FailuresAttributed := by
  intro f hf
  obtain ⟨d, -, -, hd⟩ := mem_failures_generate_iff.mp hf
  exact ⟨d, Declaration.isAttributedTo_of_analyze hd⟩

theorem failuresAttributed_check (config : Config) (ds : List Declaration) :
    (check config ds).FailuresAttributed := by
  intro f hf
  obtain ⟨d, -, -, hd⟩ := mem_failures_check_iff.mp hf
  exact ⟨d, Declaration.isAttributedTo_of_analyze hd⟩

theorem FailuresAttributed.isError (h : r.FailuresAttributed) :
    ∀ g ∈ r.diagnostics, g.isError = true := by
  intro g hg
  obtain ⟨f, hf, hg⟩ := List.mem_flatMap.mp hg
  obtain ⟨d, hd⟩ := h f hf
  exact decide_eq_true (hd.severity g hg)

theorem FailuresAttributed.diagnostics_eq_nil_iff (h : r.FailuresAttributed) :
    r.diagnostics = [] ↔ r.failures = [] := by
  constructor
  · intro hnil
    refine List.eq_nil_iff_forall_not_mem.mpr fun f hf => ?_
    obtain ⟨d, hd⟩ := h f hf
    exact hd.reported (List.flatMap_eq_nil_iff.mp hnil f hf)
  · intro hnil
    rw [diagnostics, hnil]
    rfl

theorem FailuresAttributed.success_iff (h : r.FailuresAttributed) :
    r.success = true ↔ r.errorCount = 0 := by
  have hcount : r.errorCount = r.diagnostics.length := List.countP_eq_length.mpr h.isError
  rw [success, List.isEmpty_iff, ← h.diagnostics_eq_nil_iff, hcount, List.length_eq_zero_iff]

end Run

/-- Every failure of a run is that of one of its declarations, and is reported as such; and a run succeeds
just where it reports no error. -/
theorem failures_attributed (config : Config) (now : Nat) (ds : List Declaration) :
    (∀ f, f ∈ (Run.generate config now ds).failures ∨ f ∈ (Run.check config ds).failures →
      ∃ d ∈ ds, d.isAnnotated = true ∧ d.analyze config.injectionMode = .error f ∧
        f.IsAttributedTo d) ∧
    ((Run.generate config now ds).success = true ↔ (Run.generate config now ds).errorCount = 0) ∧
    ((Run.check config ds).success = true ↔ (Run.check config ds).errorCount = 0) := by
  refine ⟨fun f hf => ?_, (Run.failuresAttributed_generate config now ds).success_iff,
    (Run.failuresAttributed_check config ds).success_iff⟩
  rw [Run.mem_failures_generate_iff, Run.mem_failures_check_iff, or_self] at hf
  obtain ⟨d, hmem, hannotated, hd⟩ := hf
  exact ⟨d, hmem, hannotated, hd, Declaration.isAttributedTo_of_analyze hd⟩

def drafts : List Declaration :=
  [{ qualifiedName := "app.Login"
     givenPackage := none
     params := [⟨"user", .named "String", [.literalString "", .persistedKey "u"]⟩]
     properties := []
     markers := [.remember, .injector "inject", .injector "get"] },
   { qualifiedName := "app.Draft"
     givenPackage := none
     params := [⟨"text", .named "String", [.persistedKey "t"]⟩]
     properties := [⟨"body", [.persistedKey "b"]⟩]
     markers := [.rememberSaveable] },
   { qualifiedName := "app.Note"
     givenPackage := none
     params := []
     properties := []
     markers := [.remember] }]

theorem failures_attributed_drafts :
    (Run.generate .default 0 drafts).failures =
      [⟨"app.Login", .extract,
        [.conflictingDefaultPolicy "app.Login" "user" ["literal-string", "persisted-key"],
         .conflictingInjector "app.Login" ["inject", "get"]]⟩,
       ⟨"app.Draft", .validate, [.missingSaveableProperty "app.Draft" "text" "t"]⟩] ∧
    (∀ f ∈ (Run.generate .default 0 drafts).failures, ∃ d ∈ drafts, d.isAnnotated = true ∧
      d.analyze .none = .error f ∧ f.IsAttributedTo d) ∧
    (Run.generate .default 0 drafts).errorCount = 3 ∧
    ¬(Run.generate .default 0 drafts).success = true := by
  obtain ⟨hfailures, hsuccess, -⟩ := failures_attributed .default 0 drafts
  have hcount : (Run.generate .default 0 drafts).errorCount = 3 := by decide +kernel
  refine ⟨by decide +kernel, fun f hf => hfailures f (.inl hf), hcount, ?_⟩
  rw [hsuccess, hcount]
  decide

end StateHolders
