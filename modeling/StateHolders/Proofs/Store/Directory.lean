import StateHolders.Proofs.FileTree
import StateHolders.Proofs.Store.Pass
import StateHolders.Store.Directory

/-! The store in a directory, seen through the texts that can be read there. Files that go to different
places do not disturb each other, whatever else is in the tree. -/

namespace StateHolders.Store.Directory

open Source (File)

variable {d : Directory} {t t' : FileTree} {f g : File}

def placeOf (d : Directory) (workingDirectory : Place) (f : File) : Place :=
  (d.pathOf f).place workingDirectory

theorem placeOf_eq {names : List String} (hf : f.relativePath.Descends names)
    (workingDirectory : Place) :
    d.placeOf workingDirectory f = d.root.place workingDirectory ++ names :=
  Path.place_join workingDirectory hf

theorem isUnchanged_iff : d.isUnchanged t f = true ↔
    ∃ text, t.readText (d.pathOf f) = .ok text ∧ Source.withoutStamp text = f.stableText := by
  unfold isUnchanged
  cases t.readText (d.pathOf f) <;> simp

theorem store_eq_ok {path : Path} {text : String} {outcome : WriteOutcome}
    (h : store t path text = (t', .ok outcome)) :
    outcome = .written ∧ t'.readText path = .ok text ∧
      t.Keeps (· = path.place t.workingDirectory) t' := by
  unfold store at h
  have hkeeps := t.keeps_makeDirectories path.parents
  split at h
  · cases h
  · next made hmade =>
    rw [hmade] at hkeeps
    split at h
    · next t'' hwrite =>
      cases h
      have hwritten := FileTree.keeps_writeText hwrite
      rw [hkeeps.workingDirectory] at hwritten
      exact ⟨rfl, FileTree.readText_writeText hwrite,
        (hkeeps.mono fun _ hfalse => hfalse.elim).trans hwritten⟩
    · cases h

theorem write_of_isUnchanged (h : d.isUnchanged t f = true) : d.write t f = (t, .ok .unchanged) := by
  rw [write, if_pos h]

theorem write_eq_ok {outcome : WriteOutcome} (hd : d.checkOnly = false)
    (h : d.write t f = (t', .ok outcome)) :
    (d.isUnchanged t f = true ∧ t' = t ∧ outcome = .unchanged) ∨
      (d.isUnchanged t f = false ∧ outcome = .written ∧
        t'.readText (d.pathOf f) = .ok f.text ∧
        t.Keeps (· = d.placeOf t.workingDirectory f) t') := by
  cases hf : d.isUnchanged t f with
  | true =>
    rw [write_of_isUnchanged hf] at h
    cases h
    exact .inl ⟨rfl, rfl, rfl⟩
  | false =>
    rw [write, if_neg (by simp [hf]), if_neg (by simp [hd])] at h
    exact .inr ⟨rfl, store_eq_ok h⟩

def Apart (d : Directory) (f g : File) : Prop := ∀ wd, d.placeOf wd f ≠ d.placeOf wd g

theorem apart_of_components_ne {names names' : List String} (hf : f.relativePath.Descends names)
    (hg : g.relativePath.Descends names')
    (h : f.relativePath.components ≠ g.relativePath.components) : d.Apart f g := by
  intro wd
  rw [placeOf_eq hf, placeOf_eq hg]
  intro heq
  obtain rfl := List.append_cancel_left heq
  exact h (hf.trans hg.symm)

theorem settles (hd : d.checkOnly = false) :
    Settles d.write (fun t f => d.isUnchanged t f = true) d.Apart where
  settled {t t' f outcome} h := by
    rcases write_eq_ok hd h with ⟨hf, rfl, -⟩ | ⟨-, -, hread, -⟩
    · exact hf
    · exact isUnchanged_iff.mpr ⟨f.text, hread, rfl⟩
  kept {t t' f g outcome} hapart h hf := by
    rcases write_eq_ok hd h with ⟨-, rfl, -⟩ | ⟨-, -, -, hkeeps⟩
    · exact hf
    · obtain ⟨text, hread, hstable⟩ := isUnchanged_iff.mp hf
      exact isUnchanged_iff.mpr ⟨text, hkeeps.readText (hapart t.workingDirectory) hread, hstable⟩
  unchanged := write_of_isUnchanged
  congr {t f g} hsame hf := by
    rw [isUnchanged_iff] at hf ⊢
    rwa [pathOf, ← hsame.1, ← hsame.2]

def IsFresh (d : Directory) (t : FileTree) (f : File) : Prop :=
  ∀ c, t.node? (d.placeOf t.workingDirectory f) ≠ some (.file c)

theorem isUnchanged_of_isFresh (h : d.IsFresh t f) : d.isUnchanged t f = false := by
  rw [← Bool.not_eq_true, isUnchanged_iff]
  rintro ⟨text, hread, -⟩
  obtain ⟨place, hplace, hnode⟩ := FileTree.readText_eq_ok_iff.mp hread
  rw [FileTree.locate_eq_ok hplace] at hnode
  exact h _ hnode

theorem IsFresh.of_keeps {written : Place → Prop} (hf : d.IsFresh t f) (h : t.Keeps written t')
    (hplace : ¬written (d.placeOf t.workingDirectory f)) : d.IsFresh t' f := by
  intro c hc
  rw [placeOf, h.workingDirectory] at hc
  exact hf c ((h.file _ hplace c).mp hc)

/-- Where no file stands where a pass puts its files, and those places differ, a pass that goes through
stores every file, and no other file changes. -/
theorem writeAll_of_isFresh (hd : d.checkOnly = false) {files : List File}
    {summary : WriteSummary} (hfiles : files.Pairwise d.Apart)
    (hfresh : ∀ f ∈ files, d.IsFresh t f) (h : writeAll d.write t files = (t', .ok summary)) :
    summary = ⟨files.length, 0, []⟩ ∧
      (∀ f ∈ files, t'.readText (d.pathOf f) = .ok f.text) ∧
      t.Keeps (fun place => ∃ f ∈ files, place = d.placeOf t.workingDirectory f) t' := by
  induction files generalizing t summary with
  | nil =>
    cases h
    exact ⟨rfl, by simp, .refl _⟩
  | cons f files ih =>
    rw [List.pairwise_cons] at hfiles
    rw [List.forall_mem_cons] at hfresh
    obtain ⟨mid, outcome, rest, hwrite, hrest, rfl⟩ := writeAll_cons_eq_ok h
    rcases write_eq_ok hd hwrite with ⟨hunchanged, -, -⟩ | ⟨-, rfl, hread, hkeeps⟩
    -- nothing is there that could be found unchanged
    · rw [isUnchanged_of_isFresh hfresh.1] at hunchanged
      cases hunchanged
    · have hmid : ∀ g ∈ files, d.IsFresh mid g := fun g hg =>
        (hfresh.2 g hg).of_keeps hkeeps (hfiles.1 g hg t.workingDirectory).symm
      obtain ⟨rfl, htexts, hkeeps'⟩ := ih hfiles.2 hmid hrest
      rw [hkeeps.workingDirectory] at hkeeps'
      refine ⟨rfl, ?_, ?_⟩
      · rw [List.forall_mem_cons]
        refine ⟨hkeeps'.readText ?_ hread, htexts⟩
        rintro ⟨g, hg, heq⟩
        rw [hkeeps.workingDirectory] at heq
        exact hfiles.1 g hg t.workingDirectory heq
      · refine (hkeeps.mono fun place hplace => ?_).trans (hkeeps'.mono fun place hplace => ?_)
        · exact ⟨f, List.mem_cons_self, hplace⟩
        · obtain ⟨g, hg, hplace⟩ := hplace
          exact ⟨g, List.mem_cons_of_mem _ hg, hplace⟩

end StateHolders.Store.Directory
