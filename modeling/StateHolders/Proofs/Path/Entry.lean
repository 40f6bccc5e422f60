import StateHolders.Proofs.FileTree.Walking
import StateHolders.Proofs.Path.Below
import StateHolders.Proofs.Text.Cut

/-! Names of what is in a directory, and paths that go down through them. -/

namespace StateHolders.Path

variable {p : Path} {name : String} {names names' : List String}

def IsEntryName (name : String) : Prop :=
  name ≠ "" ∧ name ≠ "." ∧ name ≠ ".." ∧ '/' ∉ name.toList

instance (name : String) : Decidable (IsEntryName name) := inferInstanceAs (Decidable (_ ∧ _))

namespace IsEntryName

theorem segments (h : IsEntryName name) : (Path.mk name).segments = [name] := by
  rw [Path.segments, List.splitOn_eq_singleton h.2.2.2]
  simp

theorem descends (h : IsEntryName name) : Descends ⟨name⟩ [name] := by
  have hname : Component.ofSegment? name = some (.name name) :=
    ofSegment?_eq_name_iff.mpr ⟨rfl, h.1, h.2.1, h.2.2.1⟩
  have hrel : isAbsolute ⟨name⟩ = false := by
    rw [← Bool.not_eq_true, isAbsolute_iff]
    exact fun hslash => h.2.2.2 (List.mem_of_mem_head? hslash)
  refine descends_iff.mpr ⟨?_, ?_⟩
  · simp [start, hrel, h.segments, h.2.1]
  · simp [steps, h.segments, hname]

end IsEntryName

theorem below_concat (p : Path) (names : List String) (name : String) :
    p.below (names ++ [name]) = (p.below names).join ⟨name⟩ := by
  simp [below]

theorem components_below (h : ∀ name ∈ names, IsEntryName name) :
    (p.below names).components = p.components ++ names.map .name := by
  induction names generalizing p with
  | nil => simp [below]
  | cons name names ih =>
    rw [List.forall_mem_cons] at h
    rw [below_cons, ih h.2, components_join h.1.descends]
    simp

theorem place_below (h : ∀ name ∈ names, IsEntryName name) (workingDirectory : Place) :
    (p.below names).place workingDirectory = p.place workingDirectory ++ names :=
  place_of_components_eq (components_below h) workingDirectory

theorem below_injective (h : ∀ name ∈ names, IsEntryName name) (h' : ∀ name ∈ names', IsEntryName name)
    (heq : (p.below names).components = (p.below names').components) : names = names' := by
  rw [components_below h, components_below h', List.append_cancel_left_eq] at heq
  exact List.map_injective_iff.mpr (fun _ _ => Component.name.inj) heq

theorem extension?_eq_some_iff {extension : String} (h : '.' ∉ extension.toList) :
    extension? name = some extension ↔ ∃ stem, stem ≠ "" ∧ name = stem ++ "." ++ extension := by
  have hdot : ".".toList = ['.'] := rfl
  rw [extension?]
  constructor
  · intro hext
    split at hext
    · cases hext
    · next hbefore =>
      have hmem : '.' ∈ name.toList := by
        by_contra hnone
        exact hbefore (Text.beforeLast_of_notMem hnone)
      have hsplit := Text.beforeLast_append_afterLast hmem
      rw [← Option.some.inj hext]
      refine ⟨String.ofList (Text.beforeLast '.' name.toList), by simpa using hbefore, ?_⟩
      apply String.toList_injective
      simp [hsplit, hdot]
  · rintro ⟨stem, hstem, rfl⟩
    have hlist : (stem ++ "." ++ extension).toList = stem.toList ++ '.' :: extension.toList := by
      simp [hdot]
    have hbefore := Text.beforeLast_append h stem.toList
    simp only [hlist, hbefore, Text.afterLast_append h, String.ofList_toList]
    exact if_neg (by simpa using hstem)

end StateHolders.Path
