import StateHolders.Proofs.Generation.Interchange
import StateHolders.Proofs.Store.Prediction

/-! What a check tells of the pass that is to follow. It reports the files that the pass will write, in the
order in which it will write them, unless the root of the store goes up from a directory that the pass has yet
to make. -/

namespace StateHolders

open Source (File)
open Store (Directory writeAll written)

namespace Source.File

theorem endsAt_of_descends {f : File} {names : List String} (hf : f.relativePath.Descends names) :
    Directory.EndsAt f names := by
  refine ⟨hf, endsInName_relativePath fun hslash => ?_⟩
  have habs : (Path.mk (f.name ++ ".kt")).isAbsolute = true := Path.isAbsolute_iff.mpr hslash
  have hrel := hf.isAbsolute_eq_false
  rw [relativePath, Path.join, if_pos habs, habs] at hrel
  cases hrel

end Source.File

structure PredictsWrite (root : Path) (t : FileTree) (f : File) : Prop where
  keeps_tree : (Directory.write ⟨root, true⟩ t f).1 = t
  succeeds : ∃ outcome, (Directory.write ⟨root, true⟩ t f).2 = .ok outcome
  unchanged_iff : (Directory.write ⟨root, true⟩ t f).2 = .ok .unchanged ↔
    (Directory.write ⟨root, false⟩ t f).2 = .ok .unchanged
  of_written : (Directory.write ⟨root, false⟩ t f).2 = .ok .written →
    (Directory.write ⟨root, true⟩ t f).2 = .ok .wouldWrite
  of_error : ∀ e, (Directory.write ⟨root, false⟩ t f).2 = .error e →
    (Directory.write ⟨root, true⟩ t f).2 = .ok .wouldWrite

/-- A check of files on the tree that their pass begins with reports what the pass writes. -/
def PredictsPass (root : Path) (t : FileTree) (files : List File) : Prop :=
  ∀ t' summary, writeAll (Directory.write ⟨root, false⟩) t files = (t', .ok summary) →
    writeAll (Directory.write ⟨root, true⟩) t files = (t, .ok ⟨0, summary.unchanged,
      (written (Directory.write ⟨root, false⟩) t files).map File.relativePath⟩) ∧
    summary.written = (written (Directory.write ⟨root, false⟩) t files).length

theorem Store.Directory.predictsWrite (root : Path) (t : FileTree) (f : File) :
    PredictsWrite root t f := by
  have hcheck := Directory.write_check root t f
  have hunchanged := Directory.snd_write_eq_unchanged_iff (d := ⟨root, false⟩) (t := t) (f := f) rfl
  have hchanged : (Directory.write ⟨root, false⟩ t f).2 ≠ .ok .unchanged →
      (Directory.write ⟨root, true⟩ t f).2 = .ok .wouldWrite := by
    intro h
    rw [hcheck, if_neg (mt hunchanged.mpr h)]
  refine ⟨by rw [hcheck], ⟨_, congrArg Prod.snd hcheck⟩, ?_, fun h => hchanged ?_, fun e h => hchanged ?_⟩
  · rw [hunchanged, hcheck]
    cases Directory.isUnchanged ⟨root, false⟩ t f <;> simp
  · rw [h]
    exact nofun
  · rw [h]
    exact nofun

theorem Store.Directory.predictsPass {root : Path} {t : FileTree} {files : List File} (ht : t.IsRooted)
    (hroot : t.CanClimb root) (hpaths : PathsApart files)
    (hdescends : ∀ f ∈ files, ∃ names, f.relativePath.Descends names) : PredictsPass root t files := by
  intro t' summary h
  have hapart : files.Pairwise (Directory.Apart ⟨root, false⟩) := by
    refine hpaths.imp_of_mem fun hf hg hne => ?_
    obtain ⟨_, hf⟩ := hdescends _ hf
    obtain ⟨_, hg⟩ := hdescends _ hg
    exact Directory.apart_of_components_ne hf hg hne
  have hfiles : ∀ f ∈ files, (∃ names, Directory.EndsAt f names) ∧ ¬False := by
    intro f hf
    obtain ⟨names, hnames⟩ := hdescends f hf
    exact ⟨⟨names, File.endsAt_of_descends hnames⟩, id⟩
  have hkeeps : t.Keeps (fun _ => False) t := .refl t
  have hreal := Directory.writeAll_of_keeps (d := ⟨root, false⟩) rfl ht hroot hkeeps hapart hfiles h
  obtain ⟨hwritten, rfl⟩ := hreal
  rw [hwritten]
  exact ⟨Directory.writeAll_check root t files, rfl⟩

theorem Store.Directory.predictsPass_afterPasses (passes : List (Directory × List File)) {root : Path}
    {files : List File} (hroot : (afterPasses .empty passes).CanClimb root) (hpaths : PathsApart files)
    (hdescends : ∀ f ∈ files, ∃ names, f.relativePath.Descends names) :
    PredictsPass root (afterPasses .empty passes) files :=
  predictsPass (isRooted_afterPasses FileTree.isRooted_empty passes) hroot hpaths hdescends

/-- The check of a file foretells its write on the same tree, whatever is there. The check of a list of files
that go down to places of their own foretells their pass, if the root of the store goes up only from
directories that are there before the pass. A root that does not go up is one of these, and so is every root
that is there. -/
theorem check_predicts_pass (root : Path) (t : FileTree) :
    (∀ f, PredictsWrite root t f) ∧
    (∀ files, t.IsRooted → t.CanClimb root → PathsApart files →
      (∀ f ∈ files, ∃ names, f.relativePath.Descends names) → PredictsPass root t files) ∧
    (".." ∉ root.segments ∨ (∃ place, t.locate root = .ok place) → t.CanClimb root) := by
  refine ⟨Store.Directory.predictsWrite root t, fun files => Store.Directory.predictsPass, ?_⟩
  rintro (hnone | ⟨place, hplace⟩)
  · exact FileTree.canClimb_of_notMem hnone
  · exact FileTree.canClimb_of_locate hplace

def library : FileTree where
  nodes :=
    [(["gen"], .directory), (["out"], .directory), (["out", "app"], .directory),
     (["out", "app", "Atlas.kt"], .file (.text "one\n")),
     (["out", "app", "Board.kt"], .file (.text "two\n\n// Generated at 1\n")),
     (["out", "Clock.kt"], .file (.binary [255]))]
  workingDirectory := []

def editions : List File :=
  [⟨"app", "Atlas", "three\n"⟩, ⟨"app", "Board", "two\n"⟩, ⟨"", "Clock", "four\n"⟩,
   ⟨"lib.time", "Dial", "five\n"⟩]

theorem descends_editions : ∀ f ∈ editions, ∃ names, f.relativePath.Descends names := by
  simp only [editions, List.forall_mem_cons]
  exact ⟨⟨["app", "Atlas.kt"], by unfold Path.Descends; decide +kernel⟩,
    ⟨["app", "Board.kt"], by unfold Path.Descends; decide +kernel⟩,
    ⟨["Clock.kt"], by unfold Path.Descends; decide +kernel⟩,
    ⟨["lib", "time", "Dial.kt"], by unfold Path.Descends; decide +kernel⟩, by simp⟩

theorem check_predicts_pass_editions :
    library.IsRooted ∧ library.CanClimb ⟨"gen/../out"⟩ ∧ PathsApart editions ∧
    (∀ f ∈ editions, ∃ names, f.relativePath.Descends names) ∧
    (∃ t', writeAll (Directory.write ⟨⟨"gen/../out"⟩, false⟩) library editions = (t', .ok ⟨3, 1, []⟩)) ∧
    writeAll (Directory.write ⟨⟨"gen/../out"⟩, true⟩) library editions = (library, .ok ⟨0, 1,
      [⟨"app/Atlas.kt"⟩, ⟨"Clock.kt"⟩, ⟨"lib/time/Dial.kt"⟩]⟩) := by
  have hrooted : library.IsRooted := by decide +kernel
  have hclimb : library.CanClimb ⟨"gen/../out"⟩ := by decide +kernel
  have hpaths : PathsApart editions := by decide +kernel
  have hpass : (writeAll (Directory.write ⟨⟨"gen/../out"⟩, false⟩) library editions).2 =
      .ok ⟨3, 1, []⟩ := by decide +kernel
  obtain ⟨t', hpass⟩ := Store.exists_of_snd_writeAll hpass
  have hpredicted := (check_predicts_pass ⟨"gen/../out"⟩ library).2.1 editions hrooted hclimb hpaths
    descends_editions t' _ hpass
  refine ⟨hrooted, hclimb, hpaths, descends_editions, ⟨t', hpass⟩, hpredicted.1.trans ?_⟩
  have hwritten : (written (Directory.write ⟨⟨"gen/../out"⟩, false⟩) library editions).map
      File.relativePath = [⟨"app/Atlas.kt"⟩, ⟨"Clock.kt"⟩, ⟨"lib/time/Dial.kt"⟩] := by decide +kernel
  rw [hwritten]

def detour : FileTree where
  nodes := [(["out"], .directory), (["out", "B.kt"], .file (.text "b\n"))]
  workingDirectory := []

/-- The pass makes the missing directory for its first file and then finds the second one unchanged; a check
finds neither. -/
theorem detour_misleads :
    detour.IsRooted ∧ PathsApart [⟨"", "A", "a\n"⟩, ⟨"", "B", "b\n"⟩] ∧
    (∀ f ∈ [(⟨"", "A", "a\n"⟩ : File), ⟨"", "B", "b\n"⟩], ∃ names, f.relativePath.Descends names) ∧
    ¬PredictsPass ⟨"a/../out"⟩ detour [⟨"", "A", "a\n"⟩, ⟨"", "B", "b\n"⟩] := by
  have hpass : (writeAll (Directory.write ⟨⟨"a/../out"⟩, false⟩) detour
      [⟨"", "A", "a\n"⟩, ⟨"", "B", "b\n"⟩]).2 = .ok ⟨1, 1, []⟩ := by decide +kernel
  have hcheck : (writeAll (Directory.write ⟨⟨"a/../out"⟩, true⟩) detour
      [⟨"", "A", "a\n"⟩, ⟨"", "B", "b\n"⟩]).2 = .ok ⟨0, 0, [⟨"A.kt"⟩, ⟨"B.kt"⟩]⟩ := by decide +kernel
  refine ⟨by decide +kernel, by decide +kernel, ?_, fun h => ?_⟩
  · simp only [List.forall_mem_cons]
    exact ⟨⟨["A.kt"], by unfold Path.Descends; decide +kernel⟩,
      ⟨["B.kt"], by unfold Path.Descends; decide +kernel⟩, by simp⟩
  · obtain ⟨t', hpass⟩ := Store.exists_of_snd_writeAll hpass
    have hpredicted := congrArg Prod.snd (h t' _ hpass).1
    rw [hcheck] at hpredicted
    cases hpredicted

end StateHolders
