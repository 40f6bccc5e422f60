import StateHolders.Proofs.Text.Cut
import StateHolders.QualifiedName

/-! The two parts of a dotted name. The simple name has no dot; a name with a dot is its package, the
dot and its simple name, and a name without one is its own simple name. -/

namespace StateHolders

namespace QualifiedName

theorem dot_notMem_simpleName (n : String) : '.' ∉ (simpleName n).toList := by
  rw [simpleName, String.toList_ofList]
  exact Text.notMem_afterLast '.' n.toList

theorem simpleName_of_notMem {n : String} (h : '.' ∉ n.toList) : simpleName n = n := by
  rw [simpleName, Text.afterLast_of_notMem h, String.ofList_toList]

theorem packageName_of_notMem {n : String} (h : '.' ∉ n.toList) : packageName n = "" := by
  rw [packageName, Text.beforeLast_of_notMem h, String.ofList_nil]

theorem simpleName_eq_self_iff {n : String} : simpleName n = n ↔ '.' ∉ n.toList := by
  refine ⟨fun h => ?_, simpleName_of_notMem⟩
  rw [← h]
  exact dot_notMem_simpleName n

theorem toList_of_mem {n : String} (h : '.' ∈ n.toList) :
    n.toList = (packageName n).toList ++ '.' :: (simpleName n).toList := by
  rw [packageName, simpleName, String.toList_ofList, String.toList_ofList]
  exact (Text.beforeLast_append_afterLast h).symm

end QualifiedName
end StateHolders
