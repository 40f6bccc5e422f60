import StateHolders.Proofs.Store.Reach

/-! Passes that fail. A write that fails changes no file, though it may leave directories behind, so a pass
that stops at a file leaves the files that the pass over those before it leaves. -/

namespace StateHolders

namespace FileTree

variable {t t' : FileTree} {written made : Place → Prop}

def file? (t : FileTree) (place : Place) : Option Content :=
  match t.node? place with
  | some (.file content) => some content
  | _ => none

theorem Changes.file?_eq (h : Changes written made t t') {place : Place} (hplace : ¬written place) :
    t'.file? place = t.file? place := by
  rcases h.node place with hsame | hwritten | ⟨-, hnone, hdirectory⟩
  · rw [file?, file?, hsame]
  · exact absurd hwritten hplace
  · rw [file?, file?, hnone, hdirectory]

end FileTree

namespace Store

open Source (File)

variable {σ : Type} {write : Write σ} {s s' mid : σ} {f : File} {files : List File}
  {outcome : WriteOutcome} {summary : WriteSummary} {e : WriteError} {i : Nat}

/-- The files before number `i` are written, and the write of that file fails. -/
structure StopsAt (write : Write σ) (s : σ) (files : List File) (i : Nat) (s' : σ) (e : WriteError) :
    Prop where
  through : ∃ summary, (writeAll write s (files.take i)).2 = .ok summary
  fails : ∃ f, files[i]? = some f ∧ write (writeAll write s (files.take i)).1 f = (s', .error e)

theorem StopsAt.zero (h : write s f = (s', .error e)) (files : List File) :
    StopsAt write s (f :: files) 0 s' e :=
  ⟨⟨.empty, rfl⟩, f, rfl, h⟩

theorem stopsAt_cons_iff (h : write s f = (mid, .ok outcome)) :
    StopsAt write s (f :: files) (i + 1) s' e ↔ StopsAt write mid files i s' e := by
  have hpass : writeAll write s ((f :: files).take (i + 1)) = ((writeAll write mid (files.take i)).1,
      (writeAll write mid (files.take i)).2.map (·.add f.relativePath outcome)) := by
    rw [List.take_succ_cons, writeAll_cons_of_ok h]
  constructor
  · rintro ⟨⟨summary, hthrough⟩, hfails⟩
    rw [hpass] at hthrough hfails
    obtain ⟨rest, hrest, -⟩ := map_eq_ok_iff.mp hthrough
    exact ⟨⟨rest, hrest⟩, hfails⟩
  · rintro ⟨⟨rest, hrest⟩, hfails⟩
    refine ⟨⟨rest.add f.relativePath outcome, ?_⟩, ?_⟩
    · rw [hpass]
      exact map_eq_ok_iff.mpr ⟨rest, hrest, rfl⟩
    · rw [hpass]
      exact hfails

theorem StopsAt.writeAll_append (h : StopsAt write s files i s' e) (later : List File) :
    writeAll write s (files.take (i + 1) ++ later) = (s', .error e) := by
  induction files generalizing s i with
  | nil =>
    obtain ⟨f, hf, -⟩ := h.fails
    cases hf
  | cons f files ih =>
    cases i with
    | zero =>
      obtain ⟨f', hf', hfails⟩ := h.fails
      cases hf'
      exact writeAll_cons_of_error hfails _
    | succ i =>
      obtain ⟨summary, hthrough⟩ := h.through
      obtain ⟨s'', hpass⟩ := exists_of_snd_writeAll hthrough
      obtain ⟨mid, outcome, -, hwrite, -⟩ := writeAll_cons_eq_ok hpass
      rw [List.take_succ_cons, List.cons_append, writeAll_cons_of_ok hwrite,
        ih ((stopsAt_cons_iff hwrite).mp h)]
      rfl

theorem writeAll_eq_error_iff :
    writeAll write s files = (s', .error e) ↔ ∃ i, StopsAt write s files i s' e := by
  constructor
  · intro h
    induction files generalizing s with
    | nil => cases h
    | cons f files ih =>
      rcases hfirst : write s f with ⟨mid, e' | outcome⟩
      · rw [writeAll_cons_of_error hfirst] at h
        cases h
        exact ⟨0, .zero hfirst files⟩
      · rw [writeAll_cons_of_ok hfirst, Prod.mk.injEq] at h
        obtain ⟨i, hi⟩ := ih (Prod.ext h.1 (map_eq_error_iff.mp h.2))
        exact ⟨i + 1, (stopsAt_cons_iff hfirst).mpr hi⟩
  · rintro ⟨i, h⟩
    have hpass := h.writeAll_append (files.drop (i + 1))
    rwa [List.take_append_drop] at hpass

namespace Directory

variable {d : Directory} {t t' : FileTree}

theorem changes_of_write_eq_error (h : d.write t f = (t', .error e)) :
    t.Changes (fun _ => False) (fun _ => True) t' := by
  have hmade : t.Changes (fun _ => False) (fun _ => True)
      (t.makeDirectories (d.pathOf f).parents).1 :=
    (t.changes_makeDirectories _).mono (fun _ => id) fun _ _ => .inr trivial
  unfold write at h
  split_ifs at h
  · cases h
  · cases h
  · unfold store at h
    split at h
    · next hdirectories =>
      cases h
      rwa [hdirectories] at hmade
    · next hdirectories =>
      split at h
      · cases h
      · cases h
        rwa [hdirectories] at hmade

theorem changes_writeAll (d : Directory) (t : FileTree) (files : List File) :
    t.Changes (· ∈ files.map (d.placeOf t.workingDirectory)) (fun _ => True)
      (writeAll d.write t files).1 := by
  refine rel_writeAll (R := fun t t' => t.Changes (· ∈ files.map (d.placeOf t.workingDirectory))
    (fun _ => True) t') (fun s => .refl s) ?_ ?_ t
  · intro s s' s'' h h'
    rw [h.workingDirectory] at h'
    exact h.trans h'
  · intro f hf s
    refine (d.changes_write s f).mono ?_ fun _ _ => .inr trivial
    intro place hplace
    rw [hplace]
    exact List.mem_map_of_mem hf

/-- A write that fails changes no file. A pass fails where it stops at one of its files: it leaves the files that
the pass over those before leaves, whatever comes later, and no other place has another file than at first. -/
theorem failed_pass_keeps_earlier_writes (d : Directory) (t : FileTree) (files : List File) :
    (∀ f t' e, d.write t f = (t', .error e) → ∀ place, t'.file? place = t.file? place) ∧
      (∀ t' e, writeAll d.write t files = (t', .error e) ↔ ∃ i, StopsAt d.write t files i t' e) ∧
      ∀ i t' e, StopsAt d.write t files i t' e →
        (∀ place, t'.file? place = (writeAll d.write t (files.take i)).1.file? place) ∧
        (∀ later, writeAll d.write t (files.take (i + 1) ++ later) = (t', .error e)) ∧
        ∀ place, place ∉ (files.take i).map (d.placeOf t.workingDirectory) →
          t'.file? place = t.file? place := by
  have hwrite : ∀ (t : FileTree) f t' e, d.write t f = (t', .error e) →
      ∀ place, t'.file? place = t.file? place :=
    fun t f t' e h place => (changes_of_write_eq_error h).file?_eq id
  refine ⟨hwrite t, fun t' e => writeAll_eq_error_iff, fun i t' e h => ?_⟩
  obtain ⟨f, -, hfails⟩ := h.fails
  have hsame := hwrite _ f t' e hfails
  refine ⟨hsame, h.writeAll_append, fun place hplace => ?_⟩
  rw [hsame]
  exact (d.changes_writeAll t (files.take i)).file?_eq hplace

def held : FileTree :=
  ⟨[(["out"], .directory), (["out", "app"], .directory), (["out", "app", "Held.kt"], .directory)], []⟩

def out : Directory := ⟨⟨"out"⟩, false⟩

def dials : List File :=
  [⟨"app", "Dial", "old\n"⟩, ⟨"app", "Dial", "new\n"⟩, ⟨"app", "parts/../Held", "kept\n"⟩,
    ⟨"app", "Last", "none\n"⟩]

theorem failed_pass_keeps_earlier_writes_dials :
    ∃ t', StopsAt out.write held dials 2 t' (.write ⟨"out/app/parts/../Held.kt"⟩ .isDirectory) ∧
      held.node? ["out", "app", "parts"] = none ∧
      t'.node? ["out", "app", "parts"] = some .directory ∧
      t'.file? ["out", "app", "Dial.kt"] = some (.text "new\n") ∧
      (∀ place, t'.file? place = (writeAll out.write held (dials.take 2)).1.file? place) ∧
      writeAll out.write held dials =
        (t', .error (.write ⟨"out/app/parts/../Held.kt"⟩ .isDirectory)) ∧
      ∀ place, place ∉ (dials.take 2).map (out.placeOf []) → t'.file? place = held.file? place := by
  have hfails : (out.write (writeAll out.write held (dials.take 2)).1
      ⟨"app", "parts/../Held", "kept\n"⟩).2 =
      .error (.write ⟨"out/app/parts/../Held.kt"⟩ .isDirectory) := by decide +kernel
  have hstops : StopsAt out.write held dials 2 (out.write
      (writeAll out.write held (dials.take 2)).1 ⟨"app", "parts/../Held", "kept\n"⟩).1
      (.write ⟨"out/app/parts/../Held.kt"⟩ .isDirectory) :=
    ⟨⟨⟨2, 0, []⟩, by decide +kernel⟩, _, rfl, by rw [← hfails]⟩
  obtain ⟨hfiles, hlater, houtside⟩ := (failed_pass_keeps_earlier_writes _ _ _).2.2 _ _ _ hstops
  exact ⟨_, hstops, by decide, by decide +kernel, by decide +kernel, hfiles, hlater (dials.drop 3),
    houtside⟩

end Directory
end Store
end StateHolders
