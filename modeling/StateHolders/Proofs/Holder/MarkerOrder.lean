import StateHolders.Proofs.Holder.Extraction

/-! The order of markers. A declaration whose markers stand in another order describes the same holder, or has
the same problems up to the order in which they list markers and injectors. -/

namespace StateHolders

/-- Markers in another order, with any that marks an invalidation key repeated. -/
inductive Marker.Rearranged : List Marker → List Marker → Prop
  | perm {ms ns : List Marker} (h : ms.Perm ns) : Rearranged ms ns
  | again {ms : List Marker} (h : .invalidationKey ∈ ms) : Rearranged ms (.invalidationKey :: ms)
  | trans {ms ns os : List Marker} (h : Rearranged ms ns) (h' : Rearranged ns os) : Rearranged ms os

structure DeclaredParam.Rearranged (p p' : DeclaredParam) : Prop where
  name : p'.name = p.name
  type : p'.type = p.type
  markers : Marker.Rearranged p.markers p'.markers

/-- The declaration with the markers of its parameters rearranged and those of the class in another order, in
which the injection modes keep theirs. -/
structure Declaration.Rearranged (d d' : Declaration) : Prop where
  qualifiedName : d'.qualifiedName = d.qualifiedName
  givenPackage : d'.givenPackage = d.givenPackage
  params : List.Forall₂ DeclaredParam.Rearranged d.params d'.params
  properties : d'.properties = d.properties
  markers : d.markers.Perm d'.markers
  injectionModes : d'.markers.filterMap ClassMarker.injectionMode? =
    d.markers.filterMap ClassMarker.injectionMode?

inductive Problem.SameUpToOrder : Problem → Problem → Prop
  | refl (problem : Problem) : SameUpToOrder problem problem
  | markers {holder param : String} {names names' : List String} (h : names.Perm names') :
      SameUpToOrder (.conflictingDefaultPolicy holder param names)
        (.conflictingDefaultPolicy holder param names')
  | injectors {holder : String} {names names' : List String} (h : names.Perm names') :
      SameUpToOrder (.conflictingInjector holder names) (.conflictingInjector holder names')

inductive AgreeUpTo {ε α : Type} (R : ε → ε → Prop) : Except ε α → Except ε α → Prop
  | ok (a : α) : AgreeUpTo R (.ok a) (.ok a)
  | error {e e' : ε} (h : R e e') : AgreeUpTo R (.error e) (.error e')

namespace Marker.Rearranged

variable {ms ns : List Marker}

theorem mem_invalidationKey_iff (h : Rearranged ms ns) :
    .invalidationKey ∈ ms ↔ .invalidationKey ∈ ns := by
  induction h with
  | perm h => exact h.mem_iff
  | again h => simp [h]
  | trans _ _ ih ih' => exact ih.trans ih'

theorem perm_filter (h : Rearranged ms ns) :
    (ms.filter (· ≠ .invalidationKey)).Perm (ns.filter (· ≠ .invalidationKey)) := by
  induction h with
  | perm h => exact h.filter _
  | again _ => simp
  | trans _ _ ih ih' => exact ih.trans ih'

end Marker.Rearranged

theorem eq_of_perm_of_length_le_one {α : Type} {as bs : List α} (h : as.Perm bs)
    (hlength : as.length ≤ 1) : as = bs := by
  match as, hlength with
  | [], _ => exact h.nil_eq
  | [a], _ => exact List.singleton_perm.mp h

namespace DeclaredParam.Rearranged

variable {p p' : DeclaredParam}

theorem agree_ofDeclared (h : p.Rearranged p') (holder : String) :
    AgreeUpTo Problem.SameUpToOrder (Param.ofDeclared holder p) (Param.ofDeclared holder p') := by
  have hperm : p.sources.Perm p'.sources := h.markers.perm_filter
  by_cases hseveral : 2 ≤ p.sources.length
  · rw [ofDeclared_of_several holder hseveral,
      ofDeclared_of_several holder (hperm.length_eq ▸ hseveral), h.name]
    exact .error (.markers (hperm.map _))
  · -- with one source at most there is nothing to put in another order
    have hsources : p'.sources = p.sources := (eq_of_perm_of_length_le_one hperm (by omega)).symm
    have hkey : p'.markers.contains .invalidationKey = p.markers.contains .invalidationKey := by
      rw [Bool.eq_iff_iff, List.contains_iff_mem, List.contains_iff_mem,
        h.markers.mem_invalidationKey_iff]
    have hsame : Param.ofDeclared holder p' = Param.ofDeclared holder p := by
      simp only [Param.ofDeclared, filter_isExclusive, hsources, hkey, h.name, h.type]
    rw [hsame]
    cases Param.ofDeclared holder p with
    | ok q => exact .ok q
    | error problem => exact .error (.refl problem)

end DeclaredParam.Rearranged

theorem AgreeUpTo.collected {ε α : Type} {R : ε → ε → Prop} {rs rs' : List (Except ε α)}
    (h : List.Forall₂ (AgreeUpTo R) rs rs') :
    rs.filterMap Except.toOption = rs'.filterMap Except.toOption ∧
      List.Forall₂ R (rs.filterMap errorOf?) (rs'.filterMap errorOf?) := by
  induction h with
  | nil => exact ⟨rfl, .nil⟩
  | cons hr _ ih =>
    cases hr with
    | ok a => exact ⟨congrArg (a :: ·) ih.1, ih.2⟩
    | error he => exact ⟨ih.1, .cons he ih.2⟩

namespace Declaration.Rearranged

variable {d d' : Declaration}

theorem perm_injectors (h : d.Rearranged d') : d.injectors.Perm d'.injectors :=
  perm_distinct ((h.markers.filterMap _).filter _)

theorem agree_injectorProblems (h : d.Rearranged d') :
    List.Forall₂ Problem.SameUpToOrder d.injectorProblems d'.injectorProblems := by
  have hperm := h.perm_injectors
  simp only [Declaration.injectorProblems, ← hperm.length_eq, h.qualifiedName]
  split
  · exact .cons (.injectors hperm) .nil
  · exact .nil

theorem agree_params (h : d.Rearranged d') : List.Forall₂ (AgreeUpTo Problem.SameUpToOrder)
    (d.params.map (Param.ofDeclared d.qualifiedName))
    (d'.params.map (Param.ofDeclared d'.qualifiedName)) := by
  rw [h.qualifiedName, List.forall₂_map_left_iff, List.forall₂_map_right_iff]
  exact h.params.imp fun _ _ hp => hp.agree_ofDeclared _

theorem agree_problems (h : d.Rearranged d') :
    List.Forall₂ Problem.SameUpToOrder d.problems d'.problems :=
  List.rel_append (AgreeUpTo.collected h.agree_params).2 h.agree_injectorProblems

theorem holder_eq (h : d.Rearranged d') (hnone : d.problems = []) : d'.holder = d.holder := by
  have hpackage : d'.package = d.package := by rw [package, package, h.givenPackage, h.qualifiedName]
  have hparams := (AgreeUpTo.collected h.agree_params).1.symm
  have hsaved : d'.savedProperties = d.savedProperties := by
    rw [savedProperties, savedProperties, h.properties]
  -- the first injector is the same only because there is no second one
  have hone : d.injectors.length ≤ 1 :=
    Nat.le_of_not_lt (mt one_lt_length_injectors_iff.mp (problems_eq_nil_iff.mp hnone).2)
  have hinjectors := (eq_of_perm_of_length_le_one h.perm_injectors hone).symm
  have hmode : d'.mode = d.mode := by simp only [mode, h.markers.mem_iff]
  have hmodes : d'.injectionMode? = d.injectionMode? := by
    rw [injectionMode?, injectionMode?, h.injectionModes]
  simp only [holder, Holder.mk.injEq]
  exact ⟨h.qualifiedName, hpackage, hparams, hsaved, congrArg List.head? hinjectors, hmode, hmodes⟩

end Declaration.Rearranged

open Declaration (ofDeclaration_eq_ok_iff ofDeclaration_eq_error_iff)

/-- It does not matter in which order markers are written, injection modes apart. -/
theorem marker_order_irrelevant {d d' : Declaration} (h : d.Rearranged d') :
    AgreeUpTo (List.Forall₂ Problem.SameUpToOrder) (Holder.ofDeclaration d)
      (Holder.ofDeclaration d') := by
  have hproblems := h.agree_problems
  have hnone_iff : d.problems = [] ↔ d'.problems = [] := by
    rw [← List.length_eq_zero_iff, hproblems.length_eq, List.length_eq_zero_iff]
  by_cases hnone : d.problems = []
  · rw [ofDeclaration_eq_ok_iff.mpr ⟨hnone, rfl⟩,
      ofDeclaration_eq_ok_iff.mpr ⟨hnone_iff.mp hnone, (h.holder_eq hnone).symm⟩]
    exact .ok _
  · rw [ofDeclaration_eq_error_iff.mpr ⟨hnone, rfl⟩,
      ofDeclaration_eq_error_iff.mpr ⟨mt hnone_iff.mpr hnone, rfl⟩]
    exact .error hproblems

def rearrangedStudio : Declaration where
  qualifiedName := "app.Studio"
  givenPackage := none
  params := [⟨"a", .named "Int", [.invalidationKey, .persistedKey "a", .invalidationKey, .literalInt 1]⟩,
    ⟨"b", .named "Int", [.persistedKey "b", .invalidationKey, .invalidationKey]⟩,
    ⟨"scope", .named "kotlinx.coroutines.CoroutineScope", [.persistedKey "s"]⟩]
  properties := [⟨"b", [.persistedKey "b"]⟩]
  markers := [.injector "", .injector "inject", .injector "get", .injector "get", .rememberSaveable]

theorem rearranged_studio : Declaration.studio.Rearranged rearrangedStudio where
  qualifiedName := rfl
  givenPackage := rfl
  params := by
    refine .cons ⟨rfl, rfl, ?_⟩ (.cons ⟨rfl, rfl, .perm ?_⟩ (.cons ⟨rfl, rfl, .perm (.refl _)⟩ .nil))
    · have hagain : Marker.Rearranged [.literalInt 1, .invalidationKey, .persistedKey "a"]
          [.invalidationKey, .literalInt 1, .invalidationKey, .persistedKey "a"] := .again (by decide)
      exact hagain.trans (.perm (by decide))
    · decide
  properties := rfl
  markers := by decide
  injectionModes := rfl

theorem marker_order_irrelevant_studio : Declaration.studio.Rearranged rearrangedStudio ∧
    AgreeUpTo (List.Forall₂ Problem.SameUpToOrder) (Holder.ofDeclaration Declaration.studio)
      (Holder.ofDeclaration rearrangedStudio) :=
  ⟨rearranged_studio, marker_order_irrelevant rearranged_studio⟩

end StateHolders
