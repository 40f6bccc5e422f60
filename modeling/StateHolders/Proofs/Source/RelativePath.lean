import StateHolders.Generation
import StateHolders.Proofs.Path
import StateHolders.Proofs.QualifiedName

/-! Where generated files go. Neither a package segment nor the name of a class has a dot in it, so the
path of a generated file goes down through names alone, unless a package segment begins with the
separator of paths. -/

namespace StateHolders

theorem Text.getLast?_splitOn (sep : Char) (s : List Char) :
    (s.splitOn sep).getLast? = some (afterLast sep s) := by
  by_cases hs : sep ∈ s
  · have hsplit : s.splitOn sep =
        (beforeLast sep s).splitOn sep ++ (afterLast sep s).splitOn sep := by
      rw [← List.splitOn_append_cons_self, beforeLast_append_afterLast hs]
    rw [hsplit, List.splitOn_eq_singleton (notMem_afterLast sep s), List.getLast?_concat]
  · rw [List.splitOn_eq_singleton hs, afterLast_of_notMem hs, List.getLast?_singleton]

theorem Text.mem_splitOn_append {sep : Char} {s t piece : List Char} (ht : sep ∉ t)
    (hpiece : piece ∈ (s ++ t).splitOn sep) : piece ∈ s.splitOn sep ∨ ∃ u, piece = u ++ t := by
  by_cases hs : sep ∈ s
  · have hlast : (afterLast sep s ++ t).splitOn sep = [afterLast sep s ++ t] :=
      List.splitOn_eq_singleton (by simpa [ht] using notMem_afterLast sep s)
    have hsplit := beforeLast_append_afterLast hs
    rw [← hsplit, List.append_assoc, List.cons_append, List.splitOn_append_cons_self, hlast,
      List.mem_append, List.mem_singleton] at hpiece
    refine hpiece.imp (fun hmem => ?_) fun heq => ⟨_, heq⟩
    rw [← hsplit, List.splitOn_append_cons_self]
    exact List.mem_append_left _ hmem
  · rw [List.splitOn_eq_singleton (by simpa [ht] using hs), List.mem_singleton] at hpiece
    exact .inr ⟨s, hpiece⟩

theorem QualifiedName.dot_notMem_of_mem_segments {name s : String} (hs : s ∈ segments name) :
    '.' ∉ s.toList := by
  obtain ⟨piece, hpiece, rfl⟩ := List.mem_map.mp hs
  rw [String.toList_ofList]
  exact fun h => (Text.mem_and_ne_of_mem_splitOn (List.mem_of_mem_filter hpiece) '.' h).2 rfl

namespace Source.File

def names (f : File) : List String :=
  (QualifiedName.segments f.package).flatMap Path.namesIn ++ Path.namesIn (f.name ++ ".kt")

/-- No segment of the package is an absolute path. -/
def HasRelativePackage (f : File) : Prop :=
  ∀ s ∈ QualifiedName.segments f.package, s.toList.head? ≠ some '/'

end Source.File

namespace Path

theorem ne_dots_of_dot_notMem {piece : List Char} (h : '.' ∉ piece) :
    piece ≠ ['.'] ∧ piece ≠ ['.', '.'] := by
  constructor <;> rintro rfl <;> simp at h

theorem namesIn_fileName_ne_nil (s : String) : namesIn (s ++ ".kt") ≠ [] := by
  have hlast := Text.getLast?_splitOn '/' (s ++ ".kt").toList
  rw [String.toList_append, Text.afterLast_append_of_notMem (by decide)] at hlast
  have hpiece := List.mem_of_getLast? hlast
  intro hnil
  rw [namesIn, List.map_eq_nil_iff, List.filter_eq_nil_iff, String.toList_append] at hnil
  simpa using hnil _ hpiece

theorem descends_of_dot_notMem {s : String} (hrel : s.toList.head? ≠ some '/')
    (hdot : '.' ∉ s.toList) : Descends ⟨s⟩ (namesIn s) :=
  descends_namesIn hrel fun _ hpiece =>
    ne_dots_of_dot_notMem fun h => hdot (Text.mem_and_ne_of_mem_splitOn hpiece '.' h).1

theorem descends_fileName {s : String} (hrel : (s ++ ".kt").toList.head? ≠ some '/')
    (hdot : '.' ∉ s.toList) : Descends ⟨s ++ ".kt"⟩ (namesIn (s ++ ".kt")) := by
  refine descends_namesIn hrel fun piece hpiece => ?_
  rw [String.toList_append] at hpiece
  rcases Text.mem_splitOn_append (by decide) hpiece with hmem | ⟨u, rfl⟩
  · exact ne_dots_of_dot_notMem fun h => hdot (Text.mem_and_ne_of_mem_splitOn hmem '.' h).1
  · constructor <;> intro h <;> simpa using congrArg List.getLast? h

end Path

namespace Source.File

theorem relativePath_eq_of_name_eq {f g : File} (hpackage : f.package = g.package)
    (hname : f.name = g.name) : f.relativePath = g.relativePath := by
  rw [relativePath, relativePath, hpackage, hname]

theorem names_ne_nil (f : File) : f.names ≠ [] := by
  rw [names, Ne, List.append_eq_nil_iff]
  exact fun h => Path.namesIn_fileName_ne_nil f.name h.2

theorem descends_relativePath {f : File} (hpackage : f.HasRelativePackage)
    (hrel : (f.name ++ ".kt").toList.head? ≠ some '/') (hdot : '.' ∉ f.name.toList) :
    f.relativePath.Descends f.names := by
  have hsegments : (Path.below ⟨""⟩ (QualifiedName.segments f.package)).Descends
      ([] ++ (QualifiedName.segments f.package).flatMap Path.namesIn) :=
    Path.descends_empty.below fun s hs =>
      Path.descends_of_dot_notMem (hpackage s hs) (QualifiedName.dot_notMem_of_mem_segments hs)
  exact hsegments.join (Path.descends_fileName hrel hdot)

end Source.File

namespace ResolvedHolder

theorem mem_files_iff {c : ResolvedHolder} {stampedAt : Option Nat} {f : Source.File} :
    f ∈ c.files stampedAt ↔ f = Factory.file c stampedAt ∨
      c.holder.mode = .persistent ∧ f = Saver.file c stampedAt := by
  unfold files
  cases c.holder.mode <;> simp

theorem package_of_mem_files {c : ResolvedHolder} {stampedAt : Option Nat} {f : Source.File}
    (hf : f ∈ c.files stampedAt) : f.package = c.holder.package := by
  rcases mem_files_iff.mp hf with rfl | ⟨-, rfl⟩ <;> rfl

theorem name_of_mem_files {c : ResolvedHolder} {stampedAt : Option Nat} {f : Source.File}
    (hf : f ∈ c.files stampedAt) :
    f.name = "Remember" ++ c.holder.simpleName ∨
      f.name = "RememberSaveable" ++ c.holder.simpleName := by
  rcases mem_files_iff.mp hf with rfl | ⟨-, rfl⟩
  · exact .inl rfl
  · exact .inr rfl

theorem head?_fileName_of_mem_files {c : ResolvedHolder} {stampedAt : Option Nat} {f : Source.File}
    (hf : f ∈ c.files stampedAt) : (f.name ++ ".kt").toList.head? ≠ some '/' := by
  rcases name_of_mem_files hf with hname | hname <;> simp [hname]

theorem dot_notMem_name_of_mem_files {c : ResolvedHolder} {stampedAt : Option Nat} {f : Source.File}
    (hf : f ∈ c.files stampedAt) : '.' ∉ f.name.toList := by
  have hdot : '.' ∉ c.holder.simpleName.toList := QualifiedName.dot_notMem_simpleName _
  rcases name_of_mem_files hf with hname | hname <;> simp [hname, hdot]

theorem descends_relativePath {c : ResolvedHolder} {stampedAt : Option Nat} {f : Source.File}
    (hf : f ∈ c.files stampedAt) (hpackage : f.HasRelativePackage) :
    f.relativePath.Descends f.names :=
  Source.File.descends_relativePath hpackage (head?_fileName_of_mem_files hf)
    (dot_notMem_name_of_mem_files hf)

end ResolvedHolder
end StateHolders
