import StateHolders.Factory
import StateHolders.Proofs.Source.Naming

/-! The names that the files of a class print. The tables of the files are made by registering the class,
what its parameters and their defaults name, and the library functions that the file calls. -/

namespace StateHolders.ResolvedHolder

open Source
open Source.ImportTable (register ofRegistrations)

def paramRegistrations (p : Param × Option DefaultExpr) : List Registration :=
  .type p.1.type :: p.2.toList.flatMap fun e =>
    e.typeArg?.toList.map .type ++ e.symbols.map .symbol

def signatureRegistrations (c : ResolvedHolder) : List Registration :=
  .symbol .composable :: .type (.named c.holder.qualifiedName) :: c.params.flatMap paramRegistrations

theorem registerParam_eq (t : ImportTable) (p : Param × Option DefaultExpr) :
    registerParam t p = (paramRegistrations p).foldl register t := by
  obtain ⟨p, d⟩ := p
  cases d with
  | none => rfl
  | some e =>
    simp only [registerParam, paramRegistrations, Option.toList_some, List.flatMap_singleton,
      List.foldl_cons, List.foldl_append, List.foldl_map]
    rfl

variable {c : ResolvedHolder}

theorem signatureNames_eq : c.signatureNames =
    ofRegistrations c.holder.package c.signatureRegistrations := by
  have hparams : ∀ t : ImportTable, c.params.foldl registerParam t =
      (c.params.flatMap paramRegistrations).foldl register t := by
    intro t
    rw [List.foldl_flatMap]
    congr 1
    funext t p
    exact registerParam_eq t p
  rw [signatureNames, hparams]
  rfl

theorem type_mem_signatureRegistrations (haligned : c.defaults.length = c.holder.params.length)
    {p : Param} (hp : p ∈ c.holder.params) : .type p.type ∈ c.signatureRegistrations := by
  rw [← List.map_fst_zip (Nat.le_of_eq haligned.symm)] at hp
  obtain ⟨pd, hpd, rfl⟩ := List.mem_map.mp hp
  refine List.mem_cons_of_mem _ (List.mem_cons_of_mem _ ?_)
  exact List.mem_flatMap.mpr ⟨pd, hpd, List.mem_cons_self⟩

end StateHolders.ResolvedHolder
