import StateHolders.Proofs.QualifiedName
import StateHolders.Proofs.TypeExpr.RoundTrip

/-! Types under another name for each name. Names that the grammar has keep to it when they are cut
down to their simple names, and a renaming that can be undone name by name can be undone in types. -/

namespace StateHolders.TypeExpr

open QualifiedName (toList_of_mem simpleName_of_notMem dot_notMem_simpleName)

theorem isName_of_dot_notMem {n : List Char} (hne : n ≠ [])
    (hall : ∀ c ∈ n, isNameChar c = true) (hdot : '.' ∉ n) : IsName n := by
  refine .inr ⟨hne, hall, ?_, ?_, ?_⟩
  · exact fun h => hdot (List.mem_of_mem_head? h)
  · exact fun h => hdot (List.mem_of_getLast? h)
  · exact fun h => hdot (h.subset (by simp))

theorem isName_simpleName {n : String} (hn : IsName n.toList) (hstar : n ≠ "*") :
    IsName (QualifiedName.simpleName n).toList ∧ QualifiedName.simpleName n ≠ "*" := by
  have hne : n.toList ≠ ['*'] := fun h => hstar (String.toList_inj.mp h)
  obtain ⟨hnil, hall, -, hlast, -⟩ := hn.resolve_left hne
  have hmem : (QualifiedName.simpleName n).toList ≠ [] ∧
      ∀ c ∈ (QualifiedName.simpleName n).toList, isNameChar c = true := by
    by_cases hdot : '.' ∈ n.toList
    · have hsplit := toList_of_mem hdot
      refine ⟨fun h => hlast ?_, fun c hc => hall c ?_⟩
      · rw [hsplit, h]
        simp
      · rw [hsplit]
        simp [hc]
    · rw [simpleName_of_notMem hdot]
      exact ⟨hnil, hall⟩
  refine ⟨isName_of_dot_notMem hmem.1 hmem.2 (dot_notMem_simpleName n), fun h => ?_⟩
  have hc := hmem.2 '*' (by rw [h]; decide)
  simp [isNameChar_eq_false_of_mem_marks (c := '*') (by decide)] at hc

def renamed (f : String → String) (n : String) : String := if n = "*" then n else f n

theorem nullable_rename (f : String → String) : ∀ t : TypeExpr, (t.rename f).nullable = t.nullable
  | ⟨_, _, _⟩ => rfl

mutual
theorem names_rename (f : String → String) : ∀ t : TypeExpr,
    (t.rename f).names = t.names.map (renamed f)
  | ⟨name, args, nullable⟩ => by
    simp only [rename, names, List.map_cons, namesOfArgs_renameArgs f args]
    rfl

theorem namesOfArgs_renameArgs (f : String → String) : ∀ ts : List TypeExpr,
    namesOfArgs (renameArgs f ts) = (namesOfArgs ts).map (renamed f)
  | [] => rfl
  | t :: ts => by
    simp only [renameArgs, namesOfArgs, List.map_append, names_rename f t,
      namesOfArgs_renameArgs f ts]
end

theorem grammatical_rename {f : String → String} {t : TypeExpr} (h : t.Grammatical)
    (hf : ∀ n ∈ t.names, n ≠ "*" → IsName (f n).toList) : (t.rename f).Grammatical := by
  intro n hn
  rw [names_rename] at hn
  obtain ⟨m, hm, rfl⟩ := List.mem_map.mp hn
  rw [renamed]
  split
  · exact h m hm
  · next hstar => exact hf m hm hstar

mutual
theorem rename_rename_eq_self {f g : String → String} : ∀ t : TypeExpr,
    (∀ n ∈ t.names, renamed g (renamed f n) = n) → (t.rename f).rename g = t
  | ⟨name, args, nullable⟩, h => by
    have hname := h name (by simp [names])
    have hargs := renameArgs_renameArgs_eq_self args fun n hn => h n (by simp [names, hn])
    simp only [rename, hargs]
    rw [TypeExpr.mk.injEq]
    exact ⟨hname, rfl, rfl⟩

theorem renameArgs_renameArgs_eq_self {f g : String → String} : ∀ ts : List TypeExpr,
    (∀ n ∈ namesOfArgs ts, renamed g (renamed f n) = n) →
      renameArgs g (renameArgs f ts) = ts
  | [], _ => rfl
  | t :: ts, h => by
    have ht := rename_rename_eq_self t fun n hn => h n (by simp [namesOfArgs, hn])
    have hts := renameArgs_renameArgs_eq_self ts fun n hn => h n (by simp [namesOfArgs, hn])
    simp only [renameArgs, ht, hts]
end

end StateHolders.TypeExpr
