import Mathlib.Data.List.Pairwise
import StateHolders.Proofs.DottedName
import StateHolders.Proofs.Generation.Regeneration
import StateHolders.Proofs.Holder.Resolution

/-! Whether classes contend for an output. A class's files are named by a prefix and its simple name,
and the prefix of one kind of file begins the prefix of the other, so a class can be called what makes
its factory's file that of another class's saver. Nothing else makes two files meet. -/

namespace StateHolders

open QualifiedName (IsDotted IsPackage)
open Source (File)
open Store (writeAll)

namespace Path

theorem namesIn_of_slash_notMem {s : String} (hne : s ≠ "") (h : '/' ∉ s.toList) :
    namesIn s = [s] := by
  simp [namesIn, List.splitOn_eq_singleton h, hne]

end Path

namespace Source.File

structure IsPlain (f : File) : Prop where
  package : IsPackage f.package
  slash_notMem : '/' ∉ f.name.toList
  dot_notMem : '.' ∉ f.name.toList

namespace IsPlain

variable {f g : File}

theorem slash_notMem_fileName (hf : f.IsPlain) : '/' ∉ (f.name ++ ".kt").toList := by
  simpa using hf.slash_notMem

theorem names_eq (hf : f.IsPlain) :
    f.names = QualifiedName.segments f.package ++ [f.name ++ ".kt"] := by
  have hsegment : ∀ s ∈ QualifiedName.segments f.package, Path.namesIn s = [s] := by
    intro s hs
    have hs := hf.package.isIdentifier_of_mem_segments hs
    exact Path.namesIn_of_slash_notMem (fun h => hs.1 (by rw [h]; rfl))
      (QualifiedName.slash_notMem hs)
  have hsegments : (QualifiedName.segments f.package).flatMap Path.namesIn =
      QualifiedName.segments f.package := by
    rw [List.flatMap_congr hsegment, List.flatMap_singleton']
  rw [names, hsegments, Path.namesIn_of_slash_notMem _ hf.slash_notMem_fileName]
  simp

theorem descends (hf : f.IsPlain) : f.relativePath.Descends f.names := by
  refine descends_relativePath (fun s hs hslash => ?_) (fun hslash => ?_) hf.dot_notMem
  · exact QualifiedName.slash_notMem (hf.package.isIdentifier_of_mem_segments hs)
      (List.mem_of_mem_head? hslash)
  · exact hf.slash_notMem_fileName (List.mem_of_mem_head? hslash)

theorem components_eq_iff (hf : f.IsPlain) (hg : g.IsPlain) :
    f.relativePath.components = g.relativePath.components ↔
      f.package = g.package ∧ f.name = g.name := by
  constructor
  · intro h
    rw [hf.descends, hg.descends, hf.names_eq, hg.names_eq] at h
    -- the name makes the last component and the package the ones before it
    have hnames := List.map_injective_iff.mpr (fun _ _ => Path.Component.name.inj) h
    obtain ⟨hsegments, hname⟩ := List.append_inj' hnames rfl
    exact ⟨QualifiedName.segments_injective hf.package hg.package hsegments,
      String.append_left_inj ".kt" |>.mp (List.singleton_inj.mp hname)⟩
  · rintro ⟨hpackage, hname⟩
    rw [relativePath_eq_of_name_eq hpackage hname]

end IsPlain
end Source.File

/-- The parts of a class's qualified name are identifiers, and its package is among them. -/
structure ResolvedHolder.IsPlain (c : ResolvedHolder) : Prop where
  dotted : IsDotted c.holder.qualifiedName
  package : c.holder.package = QualifiedName.packageName c.holder.qualifiedName

def ResolvedHolder.Clashes (c e : ResolvedHolder) : Prop :=
  c.holder.package = e.holder.package ∧ e.holder.mode = .persistent ∧
    c.holder.simpleName = "Saveable" ++ e.holder.simpleName

namespace ResolvedHolder

variable {c e : ResolvedHolder} {stampedAt : Option Nat} {f g : File}

theorem IsPlain.isPlain_of_mem_files (hc : c.IsPlain) (hf : f ∈ c.files stampedAt) : f.IsPlain := by
  have hsimple := hc.dotted.isIdentifier_simpleName
  have hdot : '.' ∉ c.holder.simpleName.toList := QualifiedName.dot_notMem_simpleName _
  have hslash : '/' ∉ c.holder.simpleName.toList := QualifiedName.slash_notMem hsimple
  have hpackage : IsPackage f.package := by
    rw [package_of_mem_files hf, hc.package]
    exact hc.dotted.isPackage
  rcases name_of_mem_files hf with hname | hname <;>
    exact ⟨hpackage, by simp [hname, hslash], by simp [hname, hdot]⟩

theorem IsPlain.eq_of_simpleName_eq (hc : c.IsPlain) (he : e.IsPlain)
    (hpackage : c.holder.package = e.holder.package)
    (hsimple : c.holder.simpleName = e.holder.simpleName) :
    c.holder.qualifiedName = e.holder.qualifiedName := by
  rw [hc.package, he.package] at hpackage
  exact QualifiedName.eq_of_packageName_eq hc.dotted he.dotted hpackage hsimple

theorem saverName_eq_factoryName_iff {s s' : String} :
    "Remember" ++ s = "RememberSaveable" ++ s' ↔ s = "Saveable" ++ s' := by
  have hsplit : "RememberSaveable" ++ s' = "Remember" ++ ("Saveable" ++ s') := by
    rw [← String.append_assoc]
    rfl
  rw [hsplit, String.append_right_inj]

theorem ne_saveable_append (s : String) : s ≠ "Saveable" ++ s := by
  intro h
  have hlength := congrArg String.length h
  simp at hlength

theorem IsPlain.pairwise_files (hc : c.IsPlain) : PathsApart (c.files stampedAt) := by
  have hfactory : Factory.file c stampedAt ∈ c.files stampedAt := mem_files_iff.mpr (.inl rfl)
  unfold PathsApart
  cases hmode : c.holder.mode with
  | plain => simp [files, hmode]
  | persistent =>
    -- the saver would need the factory of a class whose name is longer than its own
    have hsaver : Saver.file c stampedAt ∈ c.files stampedAt :=
      mem_files_iff.mpr (.inr ⟨hmode, rfl⟩)
    have hne : (Factory.file c stampedAt).relativePath.components ≠
        (Saver.file c stampedAt).relativePath.components := by
      intro heq
      obtain ⟨-, hname⟩ := ((hc.isPlain_of_mem_files hfactory).components_eq_iff
        (hc.isPlain_of_mem_files hsaver)).mp heq
      exact ne_saveable_append _ (saverName_eq_factoryName_iff.mp hname)
    simpa [files, hmode] using hne

theorem IsPlain.components_ne (hc : c.IsPlain) (he : e.IsPlain)
    (hne : c.holder.qualifiedName ≠ e.holder.qualifiedName) (hce : ¬c.Clashes e)
    (hec : ¬e.Clashes c) (hf : f ∈ c.files stampedAt) (hg : g ∈ e.files stampedAt) :
    f.relativePath.components ≠ g.relativePath.components := by
  intro heq
  obtain ⟨hpackage, hname⟩ :=
    ((hc.isPlain_of_mem_files hf).components_eq_iff (he.isPlain_of_mem_files hg)).mp heq
  rw [package_of_mem_files hf, package_of_mem_files hg] at hpackage
  have hsimple : c.holder.simpleName ≠ e.holder.simpleName := fun h =>
    hne (hc.eq_of_simpleName_eq he hpackage h)
  -- two factories or two savers meet under one simple name; a factory and a saver make the clash
  rcases mem_files_iff.mp hf with rfl | ⟨hmode, rfl⟩ <;>
    rcases mem_files_iff.mp hg with rfl | ⟨hmode', rfl⟩
  · exact hsimple ((String.append_right_inj _).mp hname)
  · exact hce ⟨hpackage, hmode', saverName_eq_factoryName_iff.mp hname⟩
  · exact hec ⟨hpackage.symm, hmode, saverName_eq_factoryName_iff.mp hname.symm⟩
  · exact hsimple ((String.append_right_inj _).mp hname)

theorem Clashes.exists_components_eq (h : c.Clashes e) (stampedAt : Option Nat) :
    ∃ f ∈ c.files stampedAt, ∃ g ∈ e.files stampedAt,
      f.relativePath.components = g.relativePath.components := by
  refine ⟨Factory.file c stampedAt, mem_files_iff.mpr (.inl rfl), Saver.file e stampedAt,
    mem_files_iff.mpr (.inr ⟨h.2.1, rfl⟩), ?_⟩
  have hname : (Factory.file c stampedAt).name = (Saver.file e stampedAt).name :=
    saverName_eq_factoryName_iff.mpr h.2.2
  have hpackage : (Factory.file c stampedAt).package = (Saver.file e stampedAt).package := h.1
  rw [File.relativePath_eq_of_name_eq hpackage hname]

theorem pathsApart_flatMap_iff {cs : List ResolvedHolder} (hplain : ∀ c ∈ cs, c.IsPlain)
    (hnames : cs.Pairwise fun c e => c.holder.qualifiedName ≠ e.holder.qualifiedName) :
    PathsApart (cs.flatMap (·.files stampedAt)) ↔ ∀ c ∈ cs, ∀ e ∈ cs, ¬c.Clashes e := by
  rw [PathsApart, List.pairwise_flatMap]
  constructor
  · rintro ⟨-, hapart⟩ c hc e he hclash
    -- the list compares each class with the later ones, and a clash may stand in the other order
    have hsymm : Std.Symm fun c e : ResolvedHolder => ∀ f ∈ c.files stampedAt,
        ∀ g ∈ e.files stampedAt, f.relativePath.components ≠ g.relativePath.components :=
      ⟨fun _ _ h f hf g hg heq => h g hg f hf heq.symm⟩
    have hne : c ≠ e := by
      rintro rfl
      exact ne_saveable_append _ hclash.2.2
    obtain ⟨f, hf, g, hg, heq⟩ := hclash.exists_components_eq stampedAt
    exact hapart.forall hc he hne f hf g hg heq
  · intro hclashes
    refine ⟨fun c hc => (hplain c hc).pairwise_files, ?_⟩
    exact hnames.imp_of_mem fun hc he hne f hf g hg =>
      (hplain _ hc).components_ne (hplain _ he) hne (hclashes _ hc _ he) (hclashes _ he _ hc) hf hg

end ResolvedHolder

namespace Declaration

structure IsPlain (d : Declaration) : Prop where
  annotated : d.isAnnotated = true
  givenPackage : d.givenPackage = none
  dotted : IsDotted d.qualifiedName

theorem IsPlain.resolved {d : Declaration} (hd : d.IsPlain) {run : InjectionMode}
    {c : ResolvedHolder} (hc : d.resolved? run = some c) : c.IsPlain := by
  obtain ⟨hname, hpackage, -⟩ := holder_of_resolved? hc
  refine ⟨hname ▸ hd.dotted, ?_⟩
  rw [hpackage, hname, package, hd.givenPackage]
  rfl

end Declaration

namespace Run

/-- In the run both declarations become classes, and the factory of the one goes where the saver of
the other does. -/
def Clash (run : InjectionMode) (d e : Declaration) : Prop :=
  (d.resolved? run).isSome = true ∧ (e.resolved? run).isSome = true ∧ d.package = e.package ∧
    e.mode = .persistent ∧ d.simpleName = "Saveable" ++ e.simpleName

instance (run : InjectionMode) (d e : Declaration) : Decidable (Clash run d e) :=
  inferInstanceAs (Decidable (_ ∧ _))

variable {run : InjectionMode} {d e : Declaration} {c c' : ResolvedHolder}

theorem clashes_iff (hc : d.resolved? run = some c) (hc' : e.resolved? run = some c') :
    c.Clashes c' ↔
      d.package = e.package ∧ e.mode = .persistent ∧ d.simpleName = "Saveable" ++ e.simpleName := by
  obtain ⟨hname, hpackage, -⟩ := Declaration.holder_of_resolved? hc
  obtain ⟨hname', hpackage', hmode'⟩ := Declaration.holder_of_resolved? hc'
  rw [ResolvedHolder.Clashes, hpackage, hpackage', hmode', Holder.simpleName, Holder.simpleName,
    hname, hname']
  rfl

theorem clash_iff : Clash run d e ↔
    ∃ c c', d.resolved? run = some c ∧ e.resolved? run = some c' ∧ c.Clashes c' := by
  constructor
  · rintro ⟨hd, he, hclash⟩
    obtain ⟨c, hc⟩ := Option.isSome_iff_exists.mp hd
    obtain ⟨c', hc'⟩ := Option.isSome_iff_exists.mp he
    exact ⟨c, c', hc, hc', (clashes_iff hc hc').mpr hclash⟩
  · rintro ⟨c, c', hc, hc', hclash⟩
    exact ⟨Option.isSome_of_mem hc, Option.isSome_of_mem hc', (clashes_iff hc hc').mp hclash⟩

theorem pathsApart_files_iff {config : Config} {now : Nat} {ds : List Declaration}
    (hplain : ∀ d ∈ ds, d.IsPlain) (hnames : (ds.map Declaration.qualifiedName).Nodup) :
    PathsApart (generate config now ds).files ↔
      ∀ d ∈ ds, ∀ e ∈ ds, ¬Clash config.injectionMode d e := by
  have hresolved : ∀ c ∈ ds.filterMap (·.resolved? config.injectionMode), c.IsPlain := by
    intro c hc
    obtain ⟨d, hd, hdc⟩ := List.mem_filterMap.mp hc
    exact (hplain d hd).resolved hdc
  have hpairwise : (ds.filterMap (·.resolved? config.injectionMode)).Pairwise
      fun c e => c.holder.qualifiedName ≠ e.holder.qualifiedName := by
    rw [List.pairwise_filterMap]
    refine (List.pairwise_map.mp hnames).imp fun hne c hc c' hc' => ?_
    rwa [(Declaration.holder_of_resolved? hc).1, (Declaration.holder_of_resolved? hc').1]
  rw [files_generate, ResolvedHolder.pathsApart_flatMap_iff hresolved hpairwise]
  constructor
  · intro h d hd e he hclash
    obtain ⟨c, c', hc, hc', hclash⟩ := clash_iff.mp hclash
    exact h c (List.mem_filterMap.mpr ⟨d, hd, hc⟩) c' (List.mem_filterMap.mpr ⟨e, he, hc'⟩) hclash
  · intro h c hc c' hc' hclash
    obtain ⟨d, hd, hdc⟩ := List.mem_filterMap.mp hc
    obtain ⟨e, he, hec⟩ := List.mem_filterMap.mp hc'
    exact h d hd e he (clash_iff.mpr ⟨c, c', hdc, hec, hclash⟩)

theorem isPlain_of_mem_files {config : Config} {now : Nat} {ds : List Declaration} {f : File}
    (hplain : ∀ d ∈ ds, d.IsPlain) (hf : f ∈ (generate config now ds).files) : f.IsPlain := by
  rw [files_generate] at hf
  obtain ⟨c, hc, hfc⟩ := List.mem_flatMap.mp hf
  obtain ⟨d, hd, hdc⟩ := List.mem_filterMap.mp hc
  exact ((hplain d hd).resolved hdc).isPlain_of_mem_files hfc

end Run

/-- The files of classes with different names go to different paths just where no class clashes with
another. Then a pass over a store that has none of them writes each file, and none over another. -/
theorem files_apart_iff (config : Config) (now : Nat) {ds : List Declaration}
    (hplain : ∀ d ∈ ds, d.IsPlain) (hnames : (ds.map Declaration.qualifiedName).Nodup) :
    (PathsApart (Run.generate config now ds).files ↔
      ∀ d ∈ ds, ∀ e ∈ ds, ¬Run.Clash config.injectionMode d e) ∧
    (PathsApart (Run.generate config now ds).files →
      (∃ m : Store.Memory,
        writeAll Store.Memory.write .empty (Run.generate config now ds).files =
          (m, .ok ⟨(Run.generate config now ds).files.length, 0, []⟩) ∧
        m.size = (Run.generate config now ds).files.length ∧
        ∀ f ∈ (Run.generate config now ds).files, m.get? f.relativePath = some f.text) ∧
      ∀ (d : Store.Directory) (t t' : FileTree) (summary : Store.WriteSummary),
        d.checkOnly = false → (∀ f ∈ (Run.generate config now ds).files, d.IsFresh t f) →
        writeAll d.write t (Run.generate config now ds).files = (t', .ok summary) →
        summary = ⟨(Run.generate config now ds).files.length, 0, []⟩ ∧
          (∀ f ∈ (Run.generate config now ds).files, t'.readText (d.pathOf f) = .ok f.text) ∧
          t.Keeps (fun place => ∃ f ∈ (Run.generate config now ds).files,
            place = d.placeOf t.workingDirectory f) t') := by
  refine ⟨Run.pathsApart_files_iff hplain hnames, fun hpaths => ⟨?_, ?_⟩⟩
  · obtain ⟨m, hpass, hsize, htexts, -⟩ :=
      Store.Memory.writeAll_of_get?_eq_none (m := .empty) hpaths fun _ _ => rfl
    exact ⟨m, hpass, hsize.trans (Nat.zero_add _), htexts⟩
  · intro d t t' summary hd hfresh hpass
    have hapart : (Run.generate config now ds).files.Pairwise d.Apart :=
      hpaths.imp_of_mem fun hf hg hne => Store.Directory.apart_of_components_ne
        (Run.isPlain_of_mem_files hplain hf).descends (Run.isPlain_of_mem_files hplain hg).descends hne
    exact Store.Directory.writeAll_of_isFresh hd hapart hfresh hpass

def counters (package : String) : List Declaration :=
  [{ qualifiedName := "app.Counter"
     givenPackage := none
     params := [⟨"start", .named "Int", [.persistedKey "n"]⟩]
     properties := [⟨"count", [.persistedKey "n"]⟩]
     markers := [.rememberSaveable] },
   { qualifiedName := package ++ ".SaveableCounter"
     givenPackage := none
     params := []
     properties := []
     markers := [.remember] }]

theorem files_apart_iff_counters :
    (∀ d ∈ counters "app.ui", d.IsPlain) ∧
    ((counters "app.ui").map Declaration.qualifiedName).Nodup ∧
    PathsApart (Run.generate .default 0 (counters "app.ui")).files ∧
    (∃ m : Store.Memory,
      writeAll Store.Memory.write .empty (Run.generate .default 0 (counters "app.ui")).files =
        (m, .ok ⟨(Run.generate .default 0 (counters "app.ui")).files.length, 0, []⟩) ∧
      m.size = (Run.generate .default 0 (counters "app.ui")).files.length ∧
      ∀ f ∈ (Run.generate .default 0 (counters "app.ui")).files,
        m.get? f.relativePath = some f.text) ∧
    ∃ t' summary,
      writeAll (Store.Directory.write ⟨⟨"out"⟩, false⟩) .empty
        (Run.generate .default 0 (counters "app.ui")).files = (t', .ok summary) ∧
      ∀ f ∈ (Run.generate .default 0 (counters "app.ui")).files,
        t'.readText (Store.Directory.pathOf ⟨⟨"out"⟩, false⟩ f) = .ok f.text := by
  have hplain : ∀ d ∈ counters "app.ui", d.IsPlain := by
    simp only [counters, List.forall_mem_cons]
    exact ⟨⟨by decide, rfl, by decide +kernel⟩, ⟨by decide, rfl, by decide +kernel⟩, by simp⟩
  have hnames : ((counters "app.ui").map Declaration.qualifiedName).Nodup := by decide +kernel
  have hclash : ∀ d ∈ counters "app.ui", ∀ e ∈ counters "app.ui", ¬Run.Clash .none d e := by
    decide +kernel
  have hpass : (writeAll (Store.Directory.write ⟨⟨"out"⟩, false⟩) .empty
      (Run.generate .default 0 (counters "app.ui")).files).2 = .ok ⟨3, 0, []⟩ := by decide +kernel
  obtain ⟨t', hpass⟩ := Store.exists_of_snd_writeAll hpass
  have hfresh : ∀ f ∈ (Run.generate .default 0 (counters "app.ui")).files,
      Store.Directory.IsFresh ⟨⟨"out"⟩, false⟩ .empty f := by
    intro f _ content
    unfold FileTree.node? FileTree.empty
    split <;> simp
  obtain ⟨hiff, hwrites⟩ := files_apart_iff .default 0 hplain hnames
  obtain ⟨hmemory, hdirectory⟩ := hwrites (hiff.mpr hclash)
  exact ⟨hplain, hnames, hiff.mpr hclash, hmemory, t', _, hpass,
    (hdirectory _ .empty t' _ rfl hfresh hpass).2.1⟩

/-- In one package the second class's factory goes where the saver of the first does. -/
theorem counters_clash :
    (∀ d ∈ counters "app", d.IsPlain) ∧ ((counters "app").map Declaration.qualifiedName).Nodup ∧
    (Run.generate .default 0 (counters "app")).files.map File.relativePath =
      [⟨"app/RememberCounter.kt"⟩, ⟨"app/RememberSaveableCounter.kt"⟩,
       ⟨"app/RememberSaveableCounter.kt"⟩] ∧
    ¬PathsApart (Run.generate .default 0 (counters "app")).files := by
  refine ⟨?_, by decide +kernel, by decide +kernel, by decide +kernel⟩
  simp only [counters, List.forall_mem_cons]
  exact ⟨⟨by decide, rfl, by decide +kernel⟩, ⟨by decide, rfl, by decide +kernel⟩, by simp⟩

end StateHolders
