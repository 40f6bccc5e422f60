import StateHolders.Proofs.Generation.Run
import StateHolders.Proofs.Source.RelativePath
import StateHolders.Proofs.Source.Stamp
import StateHolders.Proofs.Store.Directory
import StateHolders.Proofs.Store.Memory

/-! Generating again. The stamps apart, a run's files depend on the declarations and the injection mode
alone, so once they are stored another run has nothing to write. -/

namespace StateHolders

open Source (File)
open Store (SameButStamp writeAll)

theorem ResolvedHolder.sameButStamp_files (c : ResolvedHolder) (stampedAt stampedAt' : Option Nat) :
    List.Forall₂ SameButStamp (c.files stampedAt) (c.files stampedAt') := by
  have hfactory : SameButStamp (Factory.file c stampedAt) (Factory.file c stampedAt') :=
    ⟨File.relativePath_eq_of_name_eq (by simp only [Factory.file]) (by simp only [Factory.file]),
      by rw [stableText_factory, stableText_factory]⟩
  have hsaver : SameButStamp (Saver.file c stampedAt) (Saver.file c stampedAt') :=
    ⟨File.relativePath_eq_of_name_eq (by simp only [Saver.file]) (by simp only [Saver.file]),
      by rw [stableText_saver, stableText_saver]⟩
  unfold files
  cases c.holder.mode with
  | plain => exact .cons hfactory .nil
  | persistent => exact .cons hfactory (.cons hsaver .nil)

namespace Run

theorem sameButStamp_files {config config' : Config}
    (hmode : config.injectionMode = config'.injectionMode) (now now' : Nat)
    (ds : List Declaration) :
    List.Forall₂ SameButStamp (generate config now ds).files (generate config' now' ds).files := by
  rw [files_generate, files_generate, hmode]
  induction ds.filterMap (Declaration.resolved? · config'.injectionMode) with
  | nil => exact .nil
  | cons c cs ih =>
    rw [List.flatMap_cons, List.flatMap_cons]
    exact List.rel_append (c.sameButStamp_files _ _) ih

theorem exists_of_mem_files {config : Config} {now : Nat} {ds : List Declaration} {f : File}
    (hf : f ∈ (generate config now ds).files) : ∃ c : ResolvedHolder, f ∈ c.files (stamp? config now) := by
  rw [files_generate] at hf
  obtain ⟨c, -, hc⟩ := List.mem_flatMap.mp hf
  exact ⟨c, hc⟩

theorem descends_relativePath {config : Config} {now : Nat} {ds : List Declaration} {f : File}
    (hf : f ∈ (generate config now ds).files) (hpackage : f.HasRelativePackage) :
    f.relativePath.Descends f.names := by
  obtain ⟨c, hc⟩ := exists_of_mem_files hf
  exact ResolvedHolder.descends_relativePath hc hpackage

end Run

def PathsApart (files : List File) : Prop :=
  files.Pairwise fun f g => f.relativePath.components ≠ g.relativePath.components

instance (files : List File) : Decidable (PathsApart files) :=
  inferInstanceAs (Decidable (List.Pairwise ..))

/-- Once the files of a run are stored, a run that differs in its stamps finds all of them unchanged
and leaves the store as it is, in memory or under a directory; checked at that point, none of them
would be written. -/
theorem regeneration_converges (ds : List Declaration) (config config' : Config)
    (hmode : config.injectionMode = config'.injectionMode) (now now' : Nat)
    (hpaths : PathsApart (Run.generate config now ds).files) :
    (∀ m : Store.Memory, ∃ m' summary,
      writeAll Store.Memory.write m (Run.generate config now ds).files = (m', .ok summary) ∧
      writeAll Store.Memory.write m' (Run.generate config' now' ds).files =
        (m', .ok ⟨0, (Run.generate config' now' ds).files.length, []⟩)) ∧
    ∀ (root : Path) (t t' : FileTree) (summary : Store.WriteSummary),
      (∀ f ∈ (Run.generate config now ds).files, f.HasRelativePackage) →
      writeAll (Store.Directory.write ⟨root, false⟩) t (Run.generate config now ds).files =
        (t', .ok summary) →
      ∀ checkOnly,
        writeAll (Store.Directory.write ⟨root, checkOnly⟩) t' (Run.generate config' now' ds).files =
          (t', .ok ⟨0, (Run.generate config' now' ds).files.length, []⟩) := by
  have hsame := Run.sameButStamp_files hmode now now' ds
  refine ⟨fun m => ?_, fun root t t' summary hpackages h checkOnly => ?_⟩
  · obtain ⟨m', summary, h⟩ := Store.Memory.exists_writeAll m (Run.generate config now ds).files
    have hsettled := Store.Memory.settles.settled_of_sameButStamp hpaths h hsame
    exact ⟨m', summary, h, Store.writeAll_of_unchanged fun f hf =>
      Store.Memory.write_of_isSettled (hsettled f hf)⟩
  · -- what is settled does not depend on whether the directory is only checked
    have hapart : (Run.generate config now ds).files.Pairwise (Store.Directory.Apart ⟨root, false⟩) :=
      hpaths.imp_of_mem fun hf hg hne =>
        Store.Directory.apart_of_components_ne (Run.descends_relativePath hf (hpackages _ hf))
          (Run.descends_relativePath hg (hpackages _ hg)) hne
    have hsettled := (Store.Directory.settles rfl).settled_of_sameButStamp hapart h hsame
    exact Store.writeAll_of_unchanged fun f hf =>
      Store.Directory.write_of_isUnchanged (d := ⟨root, checkOnly⟩) (hsettled f hf)

def clocks : List Declaration :=
  [{ qualifiedName := "app.ui.Counter"
     givenPackage := none
     params := [⟨"start", .named "Int", [.invalidationKey, .persistedKey "n"]⟩]
     properties := [⟨"count", [.persistedKey "n"]⟩]
     markers := [.rememberSaveable] },
   { qualifiedName := "app.Timer"
     givenPackage := none
     params := [⟨"seconds", .named "Int", [.literalInt 60]⟩]
     properties := []
     markers := [.remember] }]

theorem regeneration_converges_clocks :
    PathsApart (Run.generate ⟨.none, true, true⟩ 10 clocks).files ∧
    (∃ m' summary,
      writeAll Store.Memory.write .empty (Run.generate ⟨.none, true, true⟩ 10 clocks).files =
        (m', .ok summary) ∧
      writeAll Store.Memory.write m' (Run.generate ⟨.none, false, false⟩ 20 clocks).files =
        (m', .ok ⟨0, (Run.generate ⟨.none, false, false⟩ 20 clocks).files.length, []⟩)) ∧
    (∀ f ∈ (Run.generate ⟨.none, true, true⟩ 10 clocks).files, f.HasRelativePackage) ∧
    ∃ t' : FileTree,
      writeAll (Store.Directory.write ⟨⟨"out"⟩, false⟩) .empty
        (Run.generate ⟨.none, true, true⟩ 10 clocks).files = (t', .ok ⟨3, 0, []⟩) ∧
      ∀ checkOnly,
        writeAll (Store.Directory.write ⟨⟨"out"⟩, checkOnly⟩) t'
          (Run.generate ⟨.none, false, false⟩ 20 clocks).files =
          (t', .ok ⟨0, (Run.generate ⟨.none, false, false⟩ 20 clocks).files.length, []⟩) := by
  have hpaths : PathsApart (Run.generate ⟨.none, true, true⟩ 10 clocks).files := by decide +kernel
  have hpackages : ∀ f ∈ (Run.generate ⟨.none, true, true⟩ 10 clocks).files,
      f.HasRelativePackage := by
    unfold File.HasRelativePackage
    decide +kernel
  have hpass : (writeAll (Store.Directory.write ⟨⟨"out"⟩, false⟩) .empty
      (Run.generate ⟨.none, true, true⟩ 10 clocks).files).2 = .ok ⟨3, 0, []⟩ := by decide +kernel
  obtain ⟨hmemory, hdirectory⟩ := regeneration_converges clocks ⟨.none, true, true⟩
    ⟨.none, false, false⟩ rfl 10 20 hpaths
  obtain ⟨t', hpass⟩ := Store.exists_of_snd_writeAll hpass
  exact ⟨hpaths, hmemory .empty, hpackages, t', hpass,
    hdirectory ⟨"out"⟩ .empty t' _ hpackages hpass⟩

end StateHolders
