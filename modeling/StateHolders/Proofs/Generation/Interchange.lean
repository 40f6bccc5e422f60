import StateHolders.Proofs.Generation.Regeneration
import StateHolders.Proofs.Store.Mirror

/-! Generated files in both stores. Their paths end in a name, whatever the classes are called, so the two
stores can stand in for each other. -/

namespace StateHolders

open Source (File)
open Store (Directory Memory Mirrors trace)

namespace Source.File

theorem endsInName_relativePath {f : File} (hrel : (f.name ++ ".kt").toList.head? ≠ some '/') :
    Path.EndsInName f.relativePath.segments := by
  have habs : (Path.mk (f.name ++ ".kt")).isAbsolute = false := by
    simpa [Path.isAbsolute] using hrel
  intro s hs
  rw [relativePath, Path.segments_join habs, Path.segments, List.getLast?_append, List.getLast?_map,
    Text.getLast?_splitOn, String.toList_append, Text.afterLast_append_of_notMem (by decide)] at hs
  obtain rfl := Option.some.inj hs
  rw [Ne, Path.ofSegment?_eq_none_iff]
  rintro (hempty | hdot)
  · simpa using congrArg String.toList hempty
  · simpa using congrArg (List.getLast? ∘ String.toList) hdot

end Source.File

theorem ResolvedHolder.endsInName_relativePath {c : ResolvedHolder} {stampedAt : Option Nat} {f : File}
    (hf : f ∈ c.files stampedAt) : Path.EndsInName f.relativePath.segments :=
  File.endsInName_relativePath (head?_fileName_of_mem_files hf)

/-- Files of any classes, with any stamps and in any order, are written one after the other to an empty memory
and to a directory below which no file is. If none of the writes to the directory fails, both stores
answer each of them alike, and after each of them the files below the directory are the entries in memory. -/
theorem stores_interchangeable (root : Path) (t : FileTree) (files : List File)
    (hfiles : ∀ f ∈ files, (∃ (c : ResolvedHolder) (stampedAt : Option Nat), f ∈ c.files stampedAt) ∧
      f.HasRelativePackage)
    (hempty : ∀ names content,
      t.node? (root.place t.workingDirectory ++ names) ≠ some (.file content))
    (hok : ∀ r ∈ trace (Directory.write ⟨root, false⟩) t files, ∃ outcome, r.2 = .ok outcome) :
    List.Forall₂ (fun r r' => r.2 = r'.2 ∧ Mirrors root r.1 r'.1)
      (trace (Directory.write ⟨root, false⟩) t files) (trace Memory.write .empty files) := by
  refine (Store.mirrors_empty hempty).trace (by simp [Store.Spelled, Memory.empty]) ?_ hok
  intro f hf
  obtain ⟨⟨c, stampedAt, hc⟩, hpackage⟩ := hfiles f hf
  exact ⟨⟨f.names, ResolvedHolder.descends_relativePath hc hpackage⟩,
    ResolvedHolder.endsInName_relativePath hc⟩

def noteIn (package : String) : ResolvedHolder where
  holder :=
    { qualifiedName := "app.Note"
      package := package
      params := []
      savedProperties := []
      injector := none
      mode := .plain
      injectionMode := none }
  defaults := []

def notes : List File :=
  [Factory.file (noteIn "app") (some 10), Factory.file (noteIn "app") none,
   Factory.file (noteIn "app//") none]

theorem exists_mem_files_of_mem_notes : ∀ f ∈ notes,
    (∃ (c : ResolvedHolder) (stampedAt : Option Nat), f ∈ c.files stampedAt) ∧
      f.HasRelativePackage := by
  have hfactory (package : String) (stampedAt : Option Nat) :
      ∃ (c : ResolvedHolder) (stampedAt' : Option Nat),
        Factory.file (noteIn package) stampedAt ∈ c.files stampedAt' :=
    ⟨noteIn package, stampedAt, ResolvedHolder.mem_files_iff.mpr (.inl rfl)⟩
  have hpackages : ∀ f ∈ notes, f.HasRelativePackage := by
    unfold File.HasRelativePackage
    decide +kernel
  intro f hf
  refine ⟨?_, hpackages f hf⟩
  simp only [notes, List.mem_cons, List.not_mem_nil, or_false] at hf
  rcases hf with rfl | rfl | rfl <;> exact hfactory _ _

theorem trace_notes : ∃ s last outcome,
    trace (Directory.write ⟨⟨"out"⟩, false⟩) .empty notes =
      [(s, .ok .written), (s, .ok .unchanged), (last, .ok outcome)] := by
  have hwritten : (Directory.write ⟨⟨"out"⟩, false⟩ .empty (Factory.file (noteIn "app") (some 10))).2 =
      .ok .written := by decide +kernel
  have hstored : (Directory.store
      (Directory.write ⟨⟨"out"⟩, false⟩ .empty (Factory.file (noteIn "app") (some 10))).1
      (Directory.pathOf ⟨⟨"out"⟩, false⟩ (Factory.file (noteIn "app//") none))
      (Factory.file (noteIn "app//") none).text).2 = .ok .written := by decide +kernel
  rcases hfirst : Directory.write ⟨⟨"out"⟩, false⟩ .empty (Factory.file (noteIn "app") (some 10)) with
    ⟨s, result⟩
  rw [hfirst] at hwritten hstored
  obtain rfl : result = .ok .written := hwritten
  have hsame : Store.SameButStamp (Factory.file (noteIn "app") (some 10))
      (Factory.file (noteIn "app") none) :=
    (List.forall₂_cons.mp ((noteIn "app").sameButStamp_files (some 10) none)).1
  have hsettles := Directory.settles (d := ⟨⟨"out"⟩, false⟩) rfl
  have hsecond : Directory.write ⟨⟨"out"⟩, false⟩ s (Factory.file (noteIn "app") none) =
      (s, .ok .unchanged) :=
    hsettles.unchanged (hsettles.congr hsame (hsettles.settled hfirst))
  obtain ⟨last, outcome, hthird⟩ : ∃ last outcome,
      Directory.write ⟨⟨"out"⟩, false⟩ s (Factory.file (noteIn "app//") none) =
        (last, .ok outcome) := by
    unfold Directory.write
    -- whether the texts differ does not matter here
    split
    · exact ⟨s, .unchanged, rfl⟩
    · exact ⟨_, .written, Prod.ext rfl hstored⟩
  exact ⟨s, last, outcome, by simp only [notes, trace, hfirst, hsecond, hthird]⟩

theorem stores_interchangeable_notes :
    notes.map File.relativePath =
      [⟨"app/RememberNote.kt"⟩, ⟨"app/RememberNote.kt"⟩, ⟨"app//RememberNote.kt"⟩] ∧
    (∃ s last outcome, trace (Directory.write ⟨⟨"out"⟩, false⟩) .empty notes =
      [(s, .ok .written), (s, .ok .unchanged), (last, .ok outcome)]) ∧
    List.Forall₂ (fun r r' => r.2 = r'.2 ∧ Mirrors ⟨"out"⟩ r.1 r'.1)
      (trace (Directory.write ⟨⟨"out"⟩, false⟩) .empty notes)
      (trace Memory.write .empty notes) := by
  obtain ⟨s, last, outcome, htrace⟩ := trace_notes
  refine ⟨by decide +kernel, ⟨s, last, outcome, htrace⟩, stores_interchangeable ⟨"out"⟩ .empty notes
    exists_mem_files_of_mem_notes (fun names content => ?_) fun r hr => ?_⟩
  · unfold FileTree.node? FileTree.empty
    split <;> simp
  · rw [htrace] at hr
    simp only [List.mem_cons, List.not_mem_nil, or_false] at hr
    rcases hr with rfl | rfl | rfl <;> exact ⟨_, rfl⟩

end StateHolders
