import StateHolders.Proofs.Generation.Regeneration
import StateHolders.Proofs.Store.Reach

/-! Where a run writes. No generated path goes up, so a file stays below the root of its store, unless a
segment of its package begins with the separator of paths. Such a segment replaces all that stands
before it, the root included. -/

namespace StateHolders

open Source (File)
open Store (Directory writeAll)

namespace Source.File

variable {f : File}

theorem isDownward_relativePath (hrel : (f.name ++ ".kt").toList.head? ≠ some '/')
    (hdot : '.' ∉ f.name.toList) : f.relativePath.IsDownward := by
  refine (Path.descends_empty.isDownward.below fun s hs => ?_).join ?_
  · have hdot := QualifiedName.dot_notMem_of_mem_segments hs
    exact Path.isDownward_of_dots fun hmem =>
      hdot (Text.mem_and_ne_of_mem_splitOn hmem '.' List.mem_cons_self).1
  · exact (Path.descends_fileName hrel hdot).isDownward

theorem isAbsolute_relativePath (h : ¬f.HasRelativePackage) : f.relativePath.isAbsolute = true := by
  obtain ⟨s, hs, hslash⟩ : ∃ s ∈ QualifiedName.segments f.package, s.toList.head? = some '/' := by
    simpa [HasRelativePackage] using h
  have habs : (Path.mk s).isAbsolute = true := Path.isAbsolute_iff.mpr hslash
  exact Path.isAbsolute_join_of_left (Path.isAbsolute_below (.inr ⟨s, hs, habs⟩)) _

end Source.File

namespace ResolvedHolder

variable {c : ResolvedHolder} {stampedAt : Option Nat} {f : File}

theorem isDownward_relativePath (hf : f ∈ c.files stampedAt) : f.relativePath.IsDownward :=
  File.isDownward_relativePath (head?_fileName_of_mem_files hf) (dot_notMem_name_of_mem_files hf)

end ResolvedHolder

theorem Run.exists_package_eq {config : Config} {now : Nat} {ds : List Declaration} {f : File}
    (hf : f ∈ (generate config now ds).files) : ∃ d ∈ ds, f.package = d.package := by
  rw [files_generate] at hf
  obtain ⟨c, hc, hfc⟩ := List.mem_flatMap.mp hf
  obtain ⟨d, hd, hdc⟩ := List.mem_filterMap.mp hc
  refine ⟨d, hd, ?_⟩
  rw [ResolvedHolder.package_of_mem_files hfc, (Declaration.holder_of_resolved? hdc).2.1]

namespace Store.Directory

variable {d : Directory} {f : File}

def touched (d : Directory) (f : File) : List Path := d.pathOf f :: (d.pathOf f).parents

/-- The file is read and written below the root; directories are made there too, and on the way to it. -/
structure Contains (d : Directory) (f : File) : Prop where
  path : (d.pathOf f).IsBelow d.root
  touched : ∀ p ∈ d.touched f, p.IsBelow d.root ∨ p.components <+: d.root.components
  changes : ∀ t, ChangesBelow d.root t (d.write t f).1

theorem contains_of_isBelow (h : (d.pathOf f).IsBelow d.root) : d.Contains f where
  path := h
  touched := List.forall_mem_cons.mpr ⟨.inl h, fun _ => h.parent⟩
  changes := changesBelow_write h

end Store.Directory

/-- The paths of generated files never go up. Those of a class whose package has no segment that begins with
the separator of paths stay below every root; those of any other class stand for themselves, and are
below no root that is relative. -/
theorem output_contained_iff (config : Config) (now : Nat) (ds : List Declaration) :
    (∀ f ∈ (Run.generate config now ds).files,
      (∃ d ∈ ds, f.package = d.package) ∧ f.relativePath.IsDownward ∧
      (f.HasRelativePackage ↔ ∀ d : Directory, d.Contains f) ∧
      (¬f.HasRelativePackage → ∀ d : Directory, d.pathOf f = f.relativePath ∧
        (d.root.isAbsolute = false → ¬(d.pathOf f).IsBelow d.root))) ∧
    ((∀ f ∈ (Run.generate config now ds).files, f.HasRelativePackage) →
      ∀ (d : Directory) (t : FileTree), Store.Directory.ChangesBelow d.root t
        (writeAll d.write t (Run.generate config now ds).files).1) := by
  have hbelow : ∀ f ∈ (Run.generate config now ds).files, f.HasRelativePackage →
      ∀ d : Directory, (d.pathOf f).IsBelow d.root := fun f hf hpackage _ =>
    Path.isBelow_join (Run.descends_relativePath hf hpackage) f.names_ne_nil
  have hescapes : ∀ {f : File}, ¬f.HasRelativePackage → ∀ d : Directory,
      d.pathOf f = f.relativePath ∧ (d.root.isAbsolute = false → ¬(d.pathOf f).IsBelow d.root) := by
    intro f hpackage d
    have habs := File.isAbsolute_relativePath hpackage
    have hpath : d.pathOf f = f.relativePath := Path.join_of_isAbsolute habs d.root
    rw [hpath]
    exact ⟨rfl, Path.not_isBelow_of_isAbsolute habs⟩
  refine ⟨fun f hf => ⟨Run.exists_package_eq hf, ?_, ⟨fun hpackage d => ?_, fun hall => ?_⟩,
    hescapes⟩, fun hall d t => ?_⟩
  · obtain ⟨c, hc⟩ := Run.exists_of_mem_files hf
    exact ResolvedHolder.isDownward_relativePath hc
  · exact Store.Directory.contains_of_isBelow (hbelow f hf hpackage d)
  -- what stays below every root stays below a relative one
  · by_contra hpackage
    exact (hescapes hpackage ⟨⟨"out"⟩, false⟩).2 (by decide) (hall ⟨⟨"out"⟩, false⟩).path
  · exact Store.Directory.changesBelow_writeAll (fun f hf => hbelow f hf (hall f hf) d) t

def outsider : Declaration where
  qualifiedName := "app.Counter"
  givenPackage := some "/evil"
  params := []
  properties := []
  markers := [.remember]

def home : FileTree := ⟨[(["home"], .directory)], ["home"]⟩

theorem output_contained_clocks :
    (Run.generate .default 0 clocks).files.length = 3 ∧
    (Run.generate .default 0 [outsider]).files.length = 1 ∧
    (∀ f ∈ (Run.generate .default 0 clocks).files, f.HasRelativePackage) ∧
    (∀ f ∈ (Run.generate .default 0 clocks).files, ∀ d : Directory, d.Contains f) ∧
    Store.Directory.ChangesBelow ⟨"out"⟩ home (writeAll (Store.Directory.write ⟨⟨"out"⟩, false⟩)
      home (Run.generate .default 0 clocks).files).1 ∧
    ∀ f ∈ (Run.generate .default 0 [outsider]).files,
      ¬f.HasRelativePackage ∧ ¬(Store.Directory.pathOf ⟨⟨"out"⟩, false⟩ f).IsBelow ⟨"out"⟩ := by
  have hpackages : ∀ f ∈ (Run.generate .default 0 clocks).files, f.HasRelativePackage := by
    unfold File.HasRelativePackage
    decide +kernel
  have hescapes : ∀ f ∈ (Run.generate .default 0 [outsider]).files, ¬f.HasRelativePackage := by
    unfold File.HasRelativePackage
    decide +kernel
  obtain ⟨hfiles, hpass⟩ := output_contained_iff .default 0 clocks
  obtain ⟨houtsiders, -⟩ := output_contained_iff .default 0 [outsider]
  refine ⟨by decide +kernel, by decide +kernel, hpackages,
    fun f hf => (hfiles f hf).2.2.1.mp (hpackages f hf), hpass hpackages ⟨⟨"out"⟩, false⟩ home,
    fun f hf => ⟨hescapes f hf, ?_⟩⟩
  exact ((houtsiders f hf).2.2.2 (hescapes f hf) ⟨⟨"out"⟩, false⟩).2 (by decide)

/-- Run in `/home` with the output directory `out`, a write makes a file in `/evil`. -/
theorem outsider_escapes :
    (Run.generate .default 0 [outsider]).files.map (Store.Directory.pathOf ⟨⟨"out"⟩, false⟩) =
      [⟨"/evil/RememberCounter.kt"⟩] ∧
    ¬(Path.mk "/evil/RememberCounter.kt").IsBelow ⟨"out"⟩ ∧
    home.node? ["evil", "RememberCounter.kt"] = none ∧
    ((writeAll (Store.Directory.write ⟨⟨"out"⟩, false⟩) home
      (Run.generate .default 0 [outsider]).files).1.node? ["evil", "RememberCounter.kt"]).isSome :=
  ⟨by decide +kernel, Path.not_isBelow_of_isAbsolute (by decide) (by decide), by decide +kernel,
    by decide +kernel⟩

end StateHolders
