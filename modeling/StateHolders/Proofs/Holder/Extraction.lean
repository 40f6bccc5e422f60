import Mathlib.Data.List.Forall2
import StateHolders.Proofs.Holder.Distinct

/-! What extraction makes of a declaration. Each parameter is either taken over or reported, for itself and at
its place; the injectors are looked at once, behind the parameters. -/

namespace StateHolders

theorem Marker.isExclusive_iff {m : Marker} : m.isExclusive = true ↔ m ≠ .invalidationKey := by
  cases m <;> simp [isExclusive]

theorem Marker.persistedKey?_eq_some_iff {m : Marker} {key : String} :
    m.persistedKey? = some key ↔ m = .persistedKey key := by
  cases m <;> simp [persistedKey?]

theorem TypeExpr.isAmbientScope_iff {t : TypeExpr} :
    t.isAmbientScope = true ↔ t.simpleName = "CoroutineScope" := by
  have hname : QualifiedName.simpleName Source.ambientScopeType = "CoroutineScope" := by decide
  rw [isAmbientScope, hname, decide_eq_true_eq]

theorem map_eq_map_of_forall₂ {α β γ : Type} {R : α → β → Prop} {f : α → γ} {g : β → γ}
    {as : List α} {bs : List β} (h : List.Forall₂ R as bs) (hfg : ∀ a b, R a b → f a = g b) :
    as.map f = bs.map g := by
  rw [← List.forall₂_eq_eq_eq, List.forall₂_map_left_iff, List.forall₂_map_right_iff]
  exact h.imp hfg

theorem exists_mem_iff_of_forall₂ {α β : Type} {R : α → β → Prop} {A : α → Prop} {B : β → Prop}
    {as : List α} {bs : List β} (h : List.Forall₂ R as bs) (hiff : ∀ a b, R a b → (A a ↔ B b)) :
    (∃ a ∈ as, A a) ↔ ∃ b ∈ bs, B b := by
  induction h with
  | nil => simp
  | cons hab _ ih => simp only [List.exists_mem_cons_iff, hiff _ _ hab, ih]

namespace DeclaredParam

def sources (p : DeclaredParam) : List Marker := p.markers.filter (· ≠ .invalidationKey)

theorem filter_isExclusive (p : DeclaredParam) : p.markers.filter Marker.isExclusive = p.sources := by
  refine List.filter_congr fun m _ => ?_
  rw [Bool.eq_iff_iff, Marker.isExclusive_iff, decide_eq_true_eq]

def RestoresScope (p : DeclaredParam) : Prop :=
  p.type.simpleName = "CoroutineScope" ∧ ∃ key, p.sources = [.persistedKey key]

def Offends (p : DeclaredParam) : Prop := 2 ≤ p.sources.length ∨ p.RestoresScope

inductive Offence (holder : String) (p : DeclaredParam) : Problem → Prop
  | conflict (several : 2 ≤ p.sources.length) :
      Offence holder p (.conflictingDefaultPolicy holder p.name (p.sources.map Marker.name))
  | restoredScope (restores : p.RestoresScope) :
      Offence holder p (.invalidAmbientScopeUsage holder p.name)

structure Keeps (p : DeclaredParam) (q : Param) : Prop where
  name : q.name = p.name
  type : q.type = p.type
  isInvalidationKey : q.isInvalidationKey = true ↔ .invalidationKey ∈ p.markers
  saveableKey : ∀ key, q.saveableKey = some key ↔ p.sources = [.persistedKey key]
  required_of_saveableKey : q.saveableKey.isSome = true → q.policy = .required
  ambientScope : q.policy = .ambientScope ↔
    p.type.simpleName = "CoroutineScope" ∧ p.sources = []

theorem exists_eq_persistedKey_iff {ms : List Marker} :
    (∃ key, ms = [.persistedKey key]) ↔ ms.map (·.persistedKey?.isSome) = [true] := by
  constructor
  · rintro ⟨key, rfl⟩
    rfl
  · intro h
    obtain ⟨m, rfl, hm⟩ := List.map_eq_singleton_iff.mp h
    obtain ⟨key, hkey⟩ := Option.isSome_iff_exists.mp hm
    exact ⟨key, by rw [Marker.persistedKey?_eq_some_iff.mp hkey]⟩

instance : DecidablePred RestoresScope := fun p =>
  decidable_of_iff (p.type.simpleName = "CoroutineScope" ∧
    p.sources.map (·.persistedKey?.isSome) = [true]) (and_congr_right' exists_eq_persistedKey_iff.symm)

instance : DecidablePred Offends := fun p =>
  inferInstanceAs (Decidable (2 ≤ p.sources.length ∨ p.RestoresScope))

variable {p : DeclaredParam}

theorem ofDeclared_of_sources_nil (holder : String) (h : p.sources = []) :
    ∃ q, Param.ofDeclared holder p = .ok q ∧ p.Keeps q := by
  have hok : Param.ofDeclared holder p = .ok ⟨p.name, p.type,
      if p.type.isAmbientScope then .ambientScope else .required,
      p.markers.contains .invalidationKey, none⟩ := by
    simp only [Param.ofDeclared, filter_isExclusive, h]
  refine ⟨_, hok, ?_⟩
  exact {
    name := rfl
    type := rfl
    isInvalidationKey := List.contains_iff_mem
    saveableKey := by simp [h]
    required_of_saveableKey := nofun
    ambientScope := by
      rw [← TypeExpr.isAmbientScope_iff]
      cases p.type.isAmbientScope <;> simp [h] }

theorem ofDeclared_of_source (holder : String) {m : Marker} (h : p.sources = [m])
    (hscope : ¬p.RestoresScope) : ∃ q, Param.ofDeclared holder p = .ok q ∧ p.Keeps q := by
  have hfree : (m.persistedKey?.isSome && p.type.isAmbientScope) = false := by
    rw [Bool.eq_false_iff, ne_eq, Bool.and_eq_true, TypeExpr.isAmbientScope_iff]
    rintro ⟨hsome, hname⟩
    obtain ⟨key, hkey⟩ := Option.isSome_iff_exists.mp hsome
    rw [Marker.persistedKey?_eq_some_iff.mp hkey] at h
    exact hscope ⟨hname, key, h⟩
  have hok : Param.ofDeclared holder p = .ok ⟨p.name, p.type, .ofMarker m,
      p.markers.contains .invalidationKey, m.persistedKey?⟩ := by
    simp only [Param.ofDeclared, filter_isExclusive, h, hfree]
    rfl
  refine ⟨_, hok, ?_⟩
  exact {
    name := rfl
    type := rfl
    isInvalidationKey := List.contains_iff_mem
    saveableKey := fun key => by rw [Marker.persistedKey?_eq_some_iff, h, List.singleton_inj]
    required_of_saveableKey := by cases m <;> simp [Marker.persistedKey?, DefaultPolicy.ofMarker]
    ambientScope := by cases m <;> simp [h, DefaultPolicy.ofMarker] }

theorem ofDeclared_of_restoresScope (holder : String) (h : p.RestoresScope) :
    Param.ofDeclared holder p = .error (.invalidAmbientScopeUsage holder p.name) := by
  obtain ⟨hname, key, hkey⟩ := h
  have hscope : p.type.isAmbientScope = true := TypeExpr.isAmbientScope_iff.mpr hname
  simp only [Param.ofDeclared, filter_isExclusive, hkey, hscope]
  rfl

theorem ofDeclared_of_several (holder : String) (h : 2 ≤ p.sources.length) :
    Param.ofDeclared holder p =
      .error (.conflictingDefaultPolicy holder p.name (p.sources.map Marker.name)) := by
  match hsources : p.sources with
  | [] => simp [hsources] at h
  | [m] => simp [hsources] at h
  | m :: m' :: ms => simp only [Param.ofDeclared, filter_isExclusive, hsources]

theorem ofDeclared_cases (holder : String) (p : DeclaredParam) :
    (p.Offends ∧ ∃ problem, Param.ofDeclared holder p = .error problem ∧ p.Offence holder problem) ∨
      (¬p.Offends ∧ ∃ q, Param.ofDeclared holder p = .ok q ∧ p.Keeps q) := by
  by_cases hseveral : 2 ≤ p.sources.length
  · exact .inl ⟨.inl hseveral, _, ofDeclared_of_several holder hseveral, .conflict hseveral⟩
  by_cases hscope : p.RestoresScope
  · exact .inl ⟨.inr hscope, _, ofDeclared_of_restoresScope holder hscope, .restoredScope hscope⟩
  have hoffends : ¬p.Offends := not_or.mpr ⟨hseveral, hscope⟩
  match hsources : p.sources with
  | [] => exact .inr ⟨hoffends, ofDeclared_of_sources_nil holder hsources⟩
  | [m] => exact .inr ⟨hoffends, ofDeclared_of_source holder hsources hscope⟩
  | _ :: _ :: _ => simp [hsources] at hseveral

theorem forall₂_offence (holder : String) (ps : List DeclaredParam) :
    List.Forall₂ (Offence holder) (ps.filter (·.Offends))
      ((ps.map (Param.ofDeclared holder)).filterMap errorOf?) := by
  induction ps with
  | nil => exact .nil
  | cons p ps ih =>
    rcases ofDeclared_cases holder p with ⟨hp, problem, hproblem, hoffence⟩ | ⟨hp, q, hq, -⟩
    · simp only [List.filter_cons, hp, decide_true, if_true, List.map_cons, hproblem,
        List.filterMap_cons, errorOf?]
      exact .cons hoffence ih
    · simp only [List.filter_cons, hp, decide_false, Bool.false_eq_true, if_false, List.map_cons, hq,
        List.filterMap_cons, errorOf?]
      exact ih

theorem forall₂_keeps (holder : String) {ps : List DeclaredParam} (h : ∀ p ∈ ps, ¬p.Offends) :
    List.Forall₂ Keeps ps ((ps.map (Param.ofDeclared holder)).filterMap Except.toOption) := by
  induction ps with
  | nil => exact .nil
  | cons p ps ih =>
    rw [List.forall_mem_cons] at h
    rcases ofDeclared_cases holder p with ⟨hp, -⟩ | ⟨-, q, hq, hkeeps⟩
    · exact absurd hp h.1
    · simp only [List.map_cons, hq, List.filterMap_cons, Except.toOption]
      exact .cons hkeeps (ih h.2)

end DeclaredParam

namespace Declaration

variable {d : Declaration} {h : Holder}

def paramProblems (d : Declaration) : List Problem :=
  (d.params.map (Param.ofDeclared d.qualifiedName)).filterMap errorOf?

def problems (d : Declaration) : List Problem := d.paramProblems ++ d.injectorProblems

def holder (d : Declaration) : Holder where
  qualifiedName := d.qualifiedName
  package := d.package
  params := (d.params.map (Param.ofDeclared d.qualifiedName)).filterMap Except.toOption
  savedProperties := d.savedProperties
  injector := d.injectors.head?
  mode := d.mode
  injectionMode := d.injectionMode?

theorem ofDeclaration_eq (d : Declaration) : Holder.ofDeclaration d =
    if d.problems.isEmpty then .ok d.holder else .error d.problems := rfl

theorem ofDeclaration_eq_ok_iff :
    Holder.ofDeclaration d = .ok h ↔ d.problems = [] ∧ h = d.holder := by
  rw [ofDeclaration_eq, ← List.isEmpty_iff]
  split <;> simp [*, eq_comm]

theorem ofDeclaration_eq_error_iff {problems : List Problem} :
    Holder.ofDeclaration d = .error problems ↔ d.problems ≠ [] ∧ problems = d.problems := by
  rw [ofDeclaration_eq, ne_eq, ← List.isEmpty_iff]
  split <;> simp [*, eq_comm]

def injectorNames (d : Declaration) : List String :=
  (d.markers.filterMap ClassMarker.injector?).filter (· ≠ "")

theorem mem_injectorNames {name : String} :
    name ∈ d.injectorNames ↔ name ≠ "" ∧ .injector name ∈ d.markers := by
  rw [injectorNames, List.mem_filter, List.mem_filterMap, decide_eq_true_eq, and_comm]
  refine and_congr_right' ⟨?_, fun hm => ⟨_, hm, rfl⟩⟩
  rintro ⟨m, hm, hname⟩
  cases m <;> cases hname
  exact hm

def NamesSeveral (d : Declaration) : Prop :=
  ∃ a b, a ≠ b ∧ a ≠ "" ∧ b ≠ "" ∧ .injector a ∈ d.markers ∧ .injector b ∈ d.markers

theorem one_lt_length_injectors_iff : 1 < d.injectors.length ↔ d.NamesSeveral := by
  have hnames : d.injectors = distinct d.injectorNames := rfl
  rw [hnames, one_lt_length_distinct_iff]
  simp only [mem_injectorNames]
  constructor
  · rintro ⟨a, ⟨ha, hma⟩, b, ⟨hb, hmb⟩, hab⟩
    exact ⟨a, b, hab, ha, hb, hma, hmb⟩
  · rintro ⟨a, b, hab, ha, hb, hma, hmb⟩
    exact ⟨a, ⟨ha, hma⟩, b, ⟨hb, hmb⟩, hab⟩

theorem injectorProblems_eq_nil_iff : d.injectorProblems = [] ↔ ¬d.NamesSeveral := by
  rw [← one_lt_length_injectors_iff, injectorProblems]
  split <;> simp [*]

theorem paramProblems_eq_nil_iff : d.paramProblems = [] ↔ ∀ p ∈ d.params, ¬p.Offends := by
  have hproblems := (DeclaredParam.forall₂_offence d.qualifiedName d.params).length_eq
  rw [paramProblems, ← List.length_eq_zero_iff, ← hproblems, List.length_eq_zero_iff,
    List.filter_eq_nil_iff]
  simp only [decide_eq_true_eq]

theorem exists_offence {problem : Problem} (h : problem ∈ d.paramProblems) :
    ∃ p ∈ d.params, p.Offence d.qualifiedName problem := by
  obtain ⟨result, hresult, hfailed⟩ := List.mem_filterMap.mp h
  obtain ⟨p, hp, rfl⟩ := List.mem_map.mp hresult
  refine ⟨p, hp, ?_⟩
  rcases DeclaredParam.ofDeclared_cases d.qualifiedName p with ⟨-, e, he, hoffence⟩ | ⟨-, q, hq, -⟩
  · rw [he] at hfailed
    obtain rfl := Option.some.inj hfailed
    exact hoffence
  · rw [hq] at hfailed
    cases hfailed

theorem mem_injectorProblems {problem : Problem} (h : problem ∈ d.injectorProblems) :
    problem = .conflictingInjector d.qualifiedName d.injectors := by
  unfold injectorProblems at h
  split at h
  · exact List.mem_singleton.mp h
  · cases h

theorem problems_eq_nil_iff :
    d.problems = [] ↔ (∀ p ∈ d.params, ¬p.Offends) ∧ ¬d.NamesSeveral := by
  rw [problems, List.append_eq_nil_iff, paramProblems_eq_nil_iff, injectorProblems_eq_nil_iff]

inductive InjectorReport (d : Declaration) : List Problem → Prop
  | none (same : ¬d.NamesSeveral) : InjectorReport d []
  | conflict {names : List String} (several : d.NamesSeveral)
      (first : FirstAppearances d.injectorNames names) :
      InjectorReport d [.conflictingInjector d.qualifiedName names]

theorem injectorReport (d : Declaration) : d.InjectorReport d.injectorProblems := by
  unfold injectorProblems
  split
  · next hseveral =>
    exact .conflict (one_lt_length_injectors_iff.mp hseveral) firstAppearances_distinct
  · next hsame => exact .none (mt one_lt_length_injectors_iff.mpr hsame)

structure Keeps (d : Declaration) (h : Holder) : Prop where
  params : List.Forall₂ DeclaredParam.Keeps d.params h.params
  hasAmbientScope : h.hasAmbientScope = true ↔
    ∃ p ∈ d.params, p.type.simpleName = "CoroutineScope" ∧ p.sources = []
  injector : ∀ name, h.injector = some name ↔ name ≠ "" ∧ .injector name ∈ d.markers
  savedProperties : h.savedProperties = d.properties.flatMap fun p =>
    p.markers.filterMap fun
      | .persistedKey key => some ⟨p.name, key⟩
      | _ => Option.none

/-! Without a problem there is one injector at most, so the first one named is the only one. -/

theorem head?_injectors_eq_some_iff (hsame : ¬d.NamesSeveral) {name : String} :
    d.injectors.head? = some name ↔ name ≠ "" ∧ .injector name ∈ d.markers := by
  have hmem : name ∈ d.injectors ↔ name ≠ "" ∧ .injector name ∈ d.markers :=
    mem_distinct.trans mem_injectorNames
  rw [← hmem]
  match hinjectors : d.injectors with
  | [] => simp
  | [a] => simp [eq_comm]
  | _ :: _ :: _ =>
    exact absurd (one_lt_length_injectors_iff.mp (by rw [hinjectors]; simp)) hsame

theorem savedProperties_eq (d : Declaration) : d.savedProperties =
    d.properties.flatMap fun p => p.markers.filterMap fun
      | .persistedKey key => some ⟨p.name, key⟩
      | _ => none := by
  refine List.flatMap_congr fun p _ => ?_
  rw [List.map_filterMap]
  congr 1
  funext m
  cases m <;> rfl

theorem keeps_holder (h : d.problems = []) : d.Keeps d.holder := by
  obtain ⟨hparams, hsame⟩ := problems_eq_nil_iff.mp h
  have hkeeps := DeclaredParam.forall₂_keeps d.qualifiedName hparams
  exact {
    params := hkeeps
    hasAmbientScope := by
      simp only [Holder.hasAmbientScope, List.any_eq_true, decide_eq_true_eq]
      exact (exists_mem_iff_of_forall₂ hkeeps fun _ _ hpq => hpq.ambientScope.symm).symm
    injector := fun _ => head?_injectors_eq_some_iff hsame
    savedProperties := d.savedProperties_eq }

/-- Extraction reports each parameter that offends, in order, and then the injectors if there are several,
and nothing else. Without a report it takes the whole declaration over. -/
theorem extraction_exhaustive (d : Declaration) :
    ((∃ problems, Holder.ofDeclaration d = .error problems) ↔
      (∃ p ∈ d.params, p.Offends) ∨ d.NamesSeveral) ∧
    (∀ problems, Holder.ofDeclaration d = .error problems → ∃ ofParams ofInjectors,
      problems = ofParams ++ ofInjectors ∧ d.InjectorReport ofInjectors ∧
      List.Forall₂ (DeclaredParam.Offence d.qualifiedName) (d.params.filter (·.Offends)) ofParams) ∧
    (∀ h, Holder.ofDeclaration d = .ok h → d.Keeps h) := by
  refine ⟨?_, fun problems herror => ?_, fun h hok => ?_⟩
  · simp only [ofDeclaration_eq_error_iff, exists_and_left, exists_eq, and_true, ne_eq,
      problems_eq_nil_iff, not_and_or, not_forall, not_not, exists_prop]
  · obtain ⟨-, rfl⟩ := ofDeclaration_eq_error_iff.mp herror
    exact ⟨_, _, rfl, d.injectorReport, DeclaredParam.forall₂_offence _ _⟩
  · obtain ⟨hnone, rfl⟩ := ofDeclaration_eq_ok_iff.mp hok
    exact keeps_holder hnone

def studio : Declaration where
  qualifiedName := "app.Studio"
  givenPackage := none
  params := [⟨"a", .named "Int", [.literalInt 1, .invalidationKey, .persistedKey "a"]⟩,
    ⟨"b", .named "Int", [.invalidationKey, .persistedKey "b", .invalidationKey]⟩,
    ⟨"scope", .named "kotlinx.coroutines.CoroutineScope", [.persistedKey "s"]⟩]
  properties := [⟨"b", [.persistedKey "b"]⟩]
  markers := [.injector "get", .rememberSaveable, .injector "", .injector "inject", .injector "get"]

theorem extraction_exhaustive_studio : ∃ ofParams ofInjectors,
    Holder.ofDeclaration studio = .error (ofParams ++ ofInjectors) ∧
    ofParams ++ ofInjectors =
      [.conflictingDefaultPolicy "app.Studio" "a" ["literal-int", "persisted-key"],
        .invalidAmbientScopeUsage "app.Studio" "scope",
        .conflictingInjector "app.Studio" ["get", "inject"]] ∧
    studio.InjectorReport ofInjectors ∧
    List.Forall₂ (DeclaredParam.Offence "app.Studio") (studio.params.filter (·.Offends)) ofParams := by
  have herror : Holder.ofDeclaration studio = .error
      [.conflictingDefaultPolicy "app.Studio" "a" ["literal-int", "persisted-key"],
        .invalidAmbientScopeUsage "app.Studio" "scope",
        .conflictingInjector "app.Studio" ["get", "inject"]] := by rfl
  obtain ⟨ofParams, ofInjectors, hproblems, hinjectors, hparams⟩ :=
    (extraction_exhaustive studio).2.1 _ herror
  exact ⟨ofParams, ofInjectors, hproblems ▸ herror, hproblems.symm, hinjectors, hparams⟩

end Declaration
end StateHolders
