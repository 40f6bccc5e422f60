import StateHolders.Proofs.FileTree.Rooted
import StateHolders.Proofs.Store.Directory

/-! Check mode and the writing that it stands for. A check looks at the tree as it is before the pass; what
earlier files of the pass add to the tree does not change what a later file finds. -/

namespace StateHolders.Store

open Source (File)

/-- The files of a pass that are written, up to the first write that fails. -/
def written (write : Write σ) (s : σ) : List File → List File
  | [] => []
  | f :: files =>
    match write s f with
    | (s', .ok .written) => f :: written write s' files
    | (s', .ok _) => written write s' files
    | (_, .error _) => []

namespace Directory

variable {d : Directory} {t t' s s' : FileTree} {f : File} {files : List File} {names : List String}
  {summary : WriteSummary}

def changed (d : Directory) (t : FileTree) (files : List File) : List File :=
  files.filter fun f => !d.isUnchanged t f

def countUnchanged (d : Directory) (t : FileTree) (files : List File) : Nat :=
  files.countP (d.isUnchanged t)

theorem changed_cons_of_isUnchanged (h : d.isUnchanged t f = true) (files : List File) :
    d.changed t (f :: files) = d.changed t files := by
  simp [changed, h]

theorem changed_cons_of_not_isUnchanged (h : d.isUnchanged t f = false) (files : List File) :
    d.changed t (f :: files) = f :: d.changed t files := by
  simp [changed, h]

theorem countUnchanged_cons (d : Directory) (t : FileTree) (f : File) (files : List File) :
    d.countUnchanged t (f :: files) =
      d.countUnchanged t files + if d.isUnchanged t f then 1 else 0 :=
  List.countP_cons

/-! One write. -/

theorem isUnchanged_checkOnly (root : Path) (t : FileTree) (f : File) :
    isUnchanged ⟨root, true⟩ t f = isUnchanged ⟨root, false⟩ t f := by
  unfold isUnchanged
  rfl

theorem write_check (root : Path) (t : FileTree) (f : File) : write ⟨root, true⟩ t f =
    (t, .ok (if isUnchanged ⟨root, false⟩ t f then .unchanged else .wouldWrite)) := by
  rw [write, isUnchanged_checkOnly, if_pos rfl]
  split <;> rfl

theorem snd_write_eq_unchanged_iff (hd : d.checkOnly = false) :
    (d.write t f).2 = .ok .unchanged ↔ d.isUnchanged t f = true := by
  constructor
  · intro h
    rcases hwrite : d.write t f with ⟨t', result⟩
    rw [hwrite] at h
    obtain rfl : result = .ok .unchanged := h
    rcases write_eq_ok hd hwrite with ⟨hunchanged, -, -⟩ | ⟨-, hwritten, -⟩
    · exact hunchanged
    · cases hwritten
  · intro h
    rw [write_of_isUnchanged h]

theorem isRooted_store (ht : t.IsRooted) (path : Path) (text : String) :
    (store t path text).1.IsRooted := by
  have hmade := ht.makeDirectories path.parents
  unfold store
  split
  · next t' cause hdirectories =>
    rw [hdirectories] at hmade
    exact hmade
  · next t' hdirectories =>
    rw [hdirectories] at hmade
    split
    · next t'' hwrite => exact hmade.writeText hwrite
    · exact hmade

theorem isRooted_write (ht : t.IsRooted) (d : Directory) (f : File) : (d.write t f).1.IsRooted := by
  unfold write
  split_ifs
  · exact ht
  · exact ht
  · exact isRooted_store ht (d.pathOf f) f.text

/-! A pass. -/

theorem isRooted_writeAll (ht : t.IsRooted) (d : Directory) (files : List File) :
    (writeAll d.write t files).1.IsRooted :=
  rel_writeAll (R := fun t t' => t.IsRooted → t'.IsRooted) (fun _ h => h) (fun h h' ht => h' (h ht))
    (fun f _ _ ht => isRooted_write ht d f) t ht

def afterPasses (t : FileTree) (passes : List (Directory × List File)) : FileTree :=
  passes.foldl (fun t pass => (writeAll pass.1.write t pass.2).1) t

theorem isRooted_afterPasses (ht : t.IsRooted) (passes : List (Directory × List File)) :
    (afterPasses t passes).IsRooted := by
  induction passes generalizing t with
  | nil => exact ht
  | cons pass passes ih => exact ih (isRooted_writeAll ht pass.1 pass.2)

theorem writeAll_check (root : Path) (t : FileTree) (files : List File) :
    writeAll (write ⟨root, true⟩) t files = (t, .ok ⟨0, countUnchanged ⟨root, false⟩ t files,
      (changed ⟨root, false⟩ t files).map File.relativePath⟩) := by
  induction files with
  | nil => rfl
  | cons f files ih =>
    rw [countUnchanged_cons]
    simp only [writeAll, write_check, ih]
    cases hf : isUnchanged ⟨root, false⟩ t f with
    | true => simp [changed_cons_of_isUnchanged hf, WriteSummary.add]
    | false => simp [changed_cons_of_not_isUnchanged hf, WriteSummary.add]

structure EndsAt (f : File) (names : List String) : Prop where
  descends : f.relativePath.Descends names
  endsInName : Path.EndsInName f.relativePath.segments

theorem isUnchanged_of_keeps {touched : Place → Prop} (ht : t.IsRooted) (hroot : t.CanClimb d.root)
    (hkeeps : t.Keeps touched s) (hf : EndsAt f names)
    (hplace : ¬touched (d.placeOf t.workingDirectory f)) : d.isUnchanged s f = d.isUnchanged t f := by
  rw [placeOf_eq hf.descends] at hplace
  rw [Bool.eq_iff_iff, isUnchanged_iff, isUnchanged_iff]
  refine exists_congr fun text => and_congr_left fun _ => ?_
  exact ht.readText_iff hkeeps hroot hf.descends hf.endsInName hplace

/-- The pass began with `t` and has got to `s`: what it writes from there on is what was changed in `t`. -/
theorem writeAll_of_keeps (hd : d.checkOnly = false) (ht : t.IsRooted) (hroot : t.CanClimb d.root)
    {touched : Place → Prop} (hkeeps : t.Keeps touched s) (hapart : files.Pairwise d.Apart)
    (hfiles : ∀ f ∈ files, (∃ names, EndsAt f names) ∧ ¬touched (d.placeOf t.workingDirectory f))
    (h : writeAll d.write s files = (s', .ok summary)) :
    written d.write s files = d.changed t files ∧
      summary = ⟨(d.changed t files).length, d.countUnchanged t files, []⟩ := by
  induction files generalizing s summary touched with
  | nil =>
    cases h
    exact ⟨rfl, rfl⟩
  | cons f files ih =>
    obtain ⟨mid, outcome, rest, hwrite, hrest, rfl⟩ := writeAll_cons_eq_ok h
    rw [List.pairwise_cons] at hapart
    rw [List.forall_mem_cons] at hfiles
    obtain ⟨⟨⟨names, hf⟩, hplace⟩, hfiles⟩ := hfiles
    have hsame := isUnchanged_of_keeps ht hroot hkeeps hf hplace
    rw [countUnchanged_cons]
    rcases write_eq_ok hd hwrite with ⟨hunchanged, rfl, rfl⟩ | ⟨hchanged, rfl, -, hmid⟩
    · rw [hsame] at hunchanged
      obtain ⟨hwritten, rfl⟩ := ih hkeeps hapart.2 hfiles hrest
      simp only [written, hwrite, hwritten, changed_cons_of_isUnchanged hunchanged, hunchanged]
      exact ⟨trivial, rfl⟩
    · rw [hsame] at hchanged
      rw [hkeeps.workingDirectory] at hmid
      -- `touched` grows by the place of `f`, and no later file goes there
      have hkeeps' : t.Keeps
          (fun place => touched place ∨ place = d.placeOf t.workingDirectory f) mid :=
        (hkeeps.mono fun _ => .inl).trans (hmid.mono fun _ => .inr)
      have huntouched : ∀ g ∈ files, ¬(touched (d.placeOf t.workingDirectory g) ∨
          d.placeOf t.workingDirectory g = d.placeOf t.workingDirectory f) := by
        rintro g hg (htouched | hsame)
        · exact (hfiles g hg).2 htouched
        · exact hapart.1 g hg t.workingDirectory hsame.symm
      obtain ⟨hwritten, rfl⟩ :=
        ih hkeeps' hapart.2 (fun g hg => ⟨(hfiles g hg).1, huntouched g hg⟩) hrest
      simp only [written, hwrite, hwritten, changed_cons_of_not_isUnchanged hchanged, hchanged]
      exact ⟨trivial, rfl⟩

end Directory
end StateHolders.Store
