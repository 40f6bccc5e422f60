import StateHolders.Proofs.Path.Below
import StateHolders.Proofs.Store.Directory

/-! How far a write reaches, whether it goes through or not. Nothing changes but the file that is written and
the directories above it, which are made where nothing was. -/

namespace StateHolders

namespace FileTree

variable {t t' t'' : FileTree} {p : Path} {written made written' made' : Place → Prop}

/-- From `t` to `t'` the tree changes at places that are `written`, and gets directories at places that
are `made`. -/
structure Changes (written made : Place → Prop) (t t' : FileTree) : Prop where
  workingDirectory : t'.workingDirectory = t.workingDirectory
  node : ∀ place, t'.node? place = t.node? place ∨ written place ∨
    made place ∧ t.node? place = none ∧ t'.node? place = some .directory

namespace Changes

theorem refl (t : FileTree) : Changes written made t t := ⟨rfl, fun _ => .inl rfl⟩

theorem trans (h : Changes written made t t') (h' : Changes written made t' t'') :
    Changes written made t t'' where
  workingDirectory := h'.workingDirectory.trans h.workingDirectory
  node place := by
    rcases h.node place with hsame | hwritten | ⟨hmade, hnone, hdirectory⟩
    · rw [← hsame]
      exact h'.node place
    · exact .inr (.inl hwritten)
    · rcases h'.node place with hsame' | hwritten | ⟨-, hnone', -⟩
      · exact .inr (.inr ⟨hmade, hnone, hsame'.trans hdirectory⟩)
      · exact .inr (.inl hwritten)
      · rw [hdirectory] at hnone'
        cases hnone'

theorem mono (h : Changes written made t t') (hwritten : ∀ place, written place → written' place)
    (hmade : ∀ place, made place → written' place ∨ made' place) :
    Changes written' made' t t' where
  workingDirectory := h.workingDirectory
  node place := by
    rcases h.node place with hsame | hplace | ⟨hplace, hnode⟩
    · exact .inl hsame
    · exact .inr (.inl (hwritten place hplace))
    · rcases hmade place hplace with hplace | hplace
      · exact .inr (.inl hplace)
      · exact .inr (.inr ⟨hplace, hnode⟩)

end Changes

theorem changes_put {place : Place} {node : Node} (hwritten : written place) :
    Changes written made t (t.put place node) := by
  refine ⟨rfl, fun q => ?_⟩
  rw [node?_put]
  split_ifs with hroot hplace
  · exact .inl (by simp [hroot, node?])
  · exact .inr (.inl (hplace ▸ hwritten))
  · exact .inl rfl

theorem changes_makeDirectory (h : t.makeDirectory p = .ok t') :
    Changes written (· = p.place t.workingDirectory) t t' := by
  obtain ⟨place, hplace, hnone, rfl⟩ := makeDirectory_eq_ok h
  refine ⟨rfl, fun q => ?_⟩
  rw [node?_put]
  split_ifs with hroot hq
  · exact .inl (by simp [hroot, node?])
  · exact .inr (.inr ⟨hq.trans (locate_eq_ok hplace), hq ▸ hnone, rfl⟩)
  · exact .inl rfl

theorem changes_makeDirectories (t : FileTree) (ps : List Path) :
    Changes written (fun place => ∃ p ∈ ps, place = p.place t.workingDirectory) t
      (t.makeDirectories ps).1 := by
  have first {t t' : FileTree} {p : Path} {ps : List Path} (h : t.makeDirectory p = .ok t') :
      Changes written (fun place => ∃ q ∈ p :: ps, place = q.place t.workingDirectory) t t' :=
    (changes_makeDirectory h).mono (fun _ => id) fun _ hplace => .inr ⟨p, List.mem_cons_self, hplace⟩
  have later {t t' : FileTree} {p : Path} {ps : List Path}
      (h : Changes written (fun place => ∃ q ∈ ps, place = q.place t.workingDirectory) t t') :
      Changes written (fun place => ∃ q ∈ p :: ps, place = q.place t.workingDirectory) t t' :=
    h.mono (fun _ => id) fun _ ⟨q, hq, hplace⟩ => .inr ⟨q, List.mem_cons_of_mem _ hq, hplace⟩
  fun_induction makeDirectories t ps with
  | case1 => exact .refl t
  | case2 p above t' hmake => exact first hmake
  | case3 p above _ t' e habove ih =>
    rw [habove] at ih
    exact later ih
  | case4 p above _ t' habove t'' hmake ih =>
    rw [habove] at ih
    have hlast : Changes written (fun place => ∃ q ∈ p :: above, place = q.place t'.workingDirectory)
        t' t'' := first hmake
    rw [ih.workingDirectory] at hlast
    exact (later ih).trans hlast
  | case5 p above _ t' habove e _ ih =>
    rw [habove] at ih
    exact later ih
  | case6 p above e => exact .refl t

theorem changes_writeText {text : String} (h : t.writeText p text = .ok t') :
    Changes (· = p.place t.workingDirectory) made t t' := by
  obtain ⟨place, hplace, -, rfl⟩ := writeText_eq_ok h
  exact changes_put (locate_eq_ok hplace)

end FileTree

namespace Store

open Source (File)

namespace Directory

variable {d : Directory} {f : File}

theorem changes_store (t : FileTree) (path : Path) (text : String) :
    t.Changes (· = path.place t.workingDirectory)
      (fun place => ∃ p ∈ path.parents, place = p.place t.workingDirectory)
      (store t path text).1 := by
  have hmade : t.Changes (· = path.place t.workingDirectory)
      (fun place => ∃ p ∈ path.parents, place = p.place t.workingDirectory)
      (t.makeDirectories path.parents).1 := t.changes_makeDirectories path.parents
  unfold store
  split
  · next t' cause hdirectories =>
    rw [hdirectories] at hmade
    exact hmade
  · next t' hdirectories =>
    rw [hdirectories] at hmade
    split
    · next t'' hwrite =>
      have hwritten : t'.Changes (· = path.place t'.workingDirectory)
          (fun place => ∃ p ∈ path.parents, place = p.place t.workingDirectory) t'' :=
        FileTree.changes_writeText hwrite
      rw [hmade.workingDirectory] at hwritten
      exact hmade.trans hwritten
    · exact hmade

theorem changes_write (d : Directory) (t : FileTree) (f : File) :
    t.Changes (· = d.placeOf t.workingDirectory f)
      (fun place => ∃ p ∈ (d.pathOf f).parents, place = p.place t.workingDirectory)
      (d.write t f).1 := by
  unfold write
  split_ifs
  · exact .refl t
  · exact .refl t
  · exact changes_store t (d.pathOf f) f.text

/-- Nothing changes but what is below the root, and directories that lead to the root are made where nothing
was. -/
def ChangesBelow (root : Path) (t t' : FileTree) : Prop :=
  t.Changes (fun place => ∃ names, names ≠ [] ∧ place = root.place t.workingDirectory ++ names)
    (fun place => ∃ p : Path, p.components <+: root.components ∧ place = p.place t.workingDirectory) t'

theorem ChangesBelow.refl (root : Path) (t : FileTree) : ChangesBelow root t t :=
  FileTree.Changes.refl t

theorem ChangesBelow.trans {root : Path} {t t' t'' : FileTree} (h : ChangesBelow root t t')
    (h' : ChangesBelow root t' t'') : ChangesBelow root t t'' := by
  unfold ChangesBelow at h'
  rw [h.workingDirectory] at h'
  exact FileTree.Changes.trans h h'

theorem changesBelow_write (hf : (d.pathOf f).IsBelow d.root) (t : FileTree) :
    ChangesBelow d.root t (d.write t f).1 := by
  unfold ChangesBelow
  refine (d.changes_write t f).mono ?_ ?_
  · intro place hplace
    obtain ⟨names, hne, hnames⟩ := hf.place t.workingDirectory
    exact ⟨names, hne, hplace.trans hnames⟩
  · intro place hplace
    obtain ⟨p, hp, rfl⟩ := hplace
    rcases hf.parent hp with hbelow | habove
    · exact .inl (hbelow.place t.workingDirectory)
    · exact .inr ⟨p, habove, rfl⟩

theorem changesBelow_writeAll {files : List File} (hfiles : ∀ f ∈ files, (d.pathOf f).IsBelow d.root)
    (t : FileTree) : ChangesBelow d.root t (writeAll d.write t files).1 :=
  rel_writeAll (.refl d.root) .trans (fun f hf => changesBelow_write (hfiles f hf)) t

end Directory
end Store
end StateHolders
