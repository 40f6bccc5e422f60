import Mathlib.Data.List.Basic
import StateHolders.Proofs.Path
import StateHolders.Proofs.QualifiedName
import StateHolders.Text.Alphanumeric

/-! Dotted names: identifiers with dots between them. Such a name is determined by its package and its
simple name, a package by its segments, and each segment is one name in a path. -/

namespace StateHolders.QualifiedName

def IsIdentifier (s : List Char) : Prop :=
  s ≠ [] ∧ ∀ c ∈ s, Text.isAlphanumeric c = true ∨ c = '_'

def IsDotted (name : String) : Prop := ∀ s ∈ name.toList.splitOn '.', IsIdentifier s

instance (s : List Char) : Decidable (IsIdentifier s) :=
  decidable_of_iff (s ≠ [] ∧ s.all (fun c => Text.isAlphanumeric c || c = '_') = true) (by
    simp [IsIdentifier])

instance (name : String) : Decidable (IsDotted name) :=
  inferInstanceAs (Decidable (∀ s ∈ name.toList.splitOn '.', IsIdentifier s))

theorem IsIdentifier.notMem {s : List Char} (h : IsIdentifier s) {c : Char}
    (hc : Text.isAlphanumeric c = false) (hunderscore : c ≠ '_') : c ∉ s := by
  intro hmem
  rcases h.2 c hmem with halpha | heq
  · rw [hc] at halpha
    cases halpha
  · exact hunderscore heq

theorem slash_notMem {s : List Char} (h : IsIdentifier s) : '/' ∉ s :=
  h.notMem (by decide +kernel) (by decide)

variable {m n p q : String}

theorem splitOn_of_mem (h : '.' ∈ n.toList) :
    n.toList.splitOn '.' = (packageName n).toList.splitOn '.' ++ [(simpleName n).toList] := by
  have hsimple : (simpleName n).toList.splitOn '.' = [(simpleName n).toList] :=
    List.splitOn_eq_singleton (dot_notMem_simpleName n)
  rw [toList_of_mem h, List.splitOn_append_cons_self, hsimple]

theorem IsDotted.isIdentifier_simpleName (hn : IsDotted n) : IsIdentifier (simpleName n).toList := by
  by_cases hdot : '.' ∈ n.toList
  · exact hn _ (by rw [splitOn_of_mem hdot]; simp)
  · rw [simpleName_of_notMem hdot]
    exact hn _ (by rw [List.splitOn_eq_singleton hdot]; simp)

theorem IsDotted.isDotted_packageName (hn : IsDotted n) (hdot : '.' ∈ n.toList) :
    IsDotted (packageName n) := by
  intro s hs
  exact hn s (by rw [splitOn_of_mem hdot]; exact List.mem_append_left _ hs)

theorem IsDotted.ne_empty (hn : IsDotted n) : n ≠ "" := by
  rintro rfl
  exact (hn [] (by simp)).1 rfl

theorem IsDotted.packageName_eq_empty_iff (hn : IsDotted n) :
    packageName n = "" ↔ '.' ∉ n.toList := by
  refine ⟨fun h hdot => ?_, packageName_of_notMem⟩
  exact (hn.isDotted_packageName hdot).ne_empty h

theorem eq_of_packageName_eq (hm : IsDotted m) (hn : IsDotted n)
    (hpackage : packageName m = packageName n) (hsimple : simpleName m = simpleName n) : m = n := by
  by_cases hdot : '.' ∈ n.toList
  · have hdot' : '.' ∈ m.toList := by
      by_contra h
      rw [← hm.packageName_eq_empty_iff, hpackage, hn.packageName_eq_empty_iff] at h
      exact h hdot
    rw [← String.toList_inj, toList_of_mem hdot, toList_of_mem hdot', hpackage, hsimple]
  · have hdot' : '.' ∉ m.toList := by
      rwa [← hm.packageName_eq_empty_iff, hpackage, hn.packageName_eq_empty_iff]
    rwa [simpleName_of_notMem hdot, simpleName_of_notMem hdot'] at hsimple

/-- The package of a dotted name: nothing, or a dotted name itself. -/
def IsPackage (p : String) : Prop := p = "" ∨ IsDotted p

theorem IsDotted.isPackage (hn : IsDotted n) : IsPackage (packageName n) := by
  by_cases hdot : '.' ∈ n.toList
  · exact .inr (hn.isDotted_packageName hdot)
  · exact .inl (packageName_of_notMem hdot)

theorem IsPackage.isIdentifier_of_mem_segments (hp : IsPackage p) {s : String}
    (hs : s ∈ segments p) : IsIdentifier s.toList := by
  obtain ⟨piece, hpiece, rfl⟩ := List.mem_map.mp hs
  rw [String.toList_ofList]
  rcases hp with rfl | hp
  · simp at hpiece
  · exact hp piece (List.mem_of_mem_filter hpiece)

theorem IsPackage.intercalate_segments (hp : IsPackage p) :
    ['.'].intercalate ((segments p).map String.toList) = p.toList := by
  have hmap : (segments p).map String.toList = (p.toList.splitOn '.').filter (· ≠ []) := by
    simp [segments, Function.comp_def]
  rw [hmap]
  rcases hp with rfl | hp
  · simp
  · rw [List.filter_eq_self.mpr fun s hs => by simpa using (hp s hs).1, List.intercalate_splitOn]

theorem segments_injective (hp : IsPackage p) (hq : IsPackage q) (h : segments p = segments q) :
    p = q := by
  rw [← String.toList_inj, ← hp.intercalate_segments, ← hq.intercalate_segments, h]

end StateHolders.QualifiedName
