import StateHolders.Proofs.FileTree.Walking
import StateHolders.Proofs.Store.Directory
import StateHolders.Proofs.Store.Entries

/-! The two stores side by side. As long as no write to the directory fails, the files below its root are the
entries in memory, and both stores answer every write alike. -/

namespace StateHolders.Store

open Source (File)

/-- What each write of a sequence leaves, and its outcome. A write that fails does not end the sequence. -/
def trace (write : Write σ) (s : σ) : List File → List (σ × Except WriteError WriteOutcome)
  | [] => []
  | f :: files => write s f :: trace write (write s f).1 files

/-- The files below the root are the entries: each entry is read where its path leads from the root, and each
file is there for an entry. -/
structure Mirrors (root : Path) (t : FileTree) (m : Memory) : Prop where
  inOrder : Memory.InOrder m.entries
  entry : ∀ e ∈ m.entries, (∃ names, e.1.Descends names) ∧ t.readText (root.join e.1) = .ok e.2
  file : ∀ names content, t.node? (root.place t.workingDirectory ++ names) = some (.file content) →
    ∃ e ∈ m.entries, e.1.Descends names ∧ content = .text e.2

variable {root p : Path} {t t' : FileTree} {m : Memory} {f : File} {names : List String}
  {text : String}

def Spelled (m : Memory) : Prop := ∀ e ∈ m.entries, Path.EndsInName e.1.segments

theorem mirrors_empty
    (h : ∀ names content, t.node? (root.place t.workingDirectory ++ names) ≠ some (.file content)) :
    Mirrors root t .empty :=
  ⟨Memory.inOrder_empty, by simp [Memory.empty], fun names content hfile =>
    absurd hfile (h names content)⟩

namespace Mirrors

theorem node?_eq_iff (h : Mirrors root t m) (hp : p.Descends names) :
    t.node? (root.place t.workingDirectory ++ names) = some (.file (.text text)) ↔
      m.get? p = some text := by
  rw [Memory.get?_eq_some_iff h.inOrder]
  constructor
  · intro hnode
    obtain ⟨e, he, hdescends, htext⟩ := h.file names _ hnode
    exact ⟨e, he, hdescends.trans hp.symm, (Content.text.inj htext).symm⟩
  · rintro ⟨e, he, hcomponents, rfl⟩
    have hdescends : e.1.Descends names := hcomponents.trans hp
    obtain ⟨place, hplace, hnode⟩ := FileTree.readText_eq_ok_iff.mp (h.entry e he).2
    rwa [FileTree.locate_eq_ok hplace, Path.place_join _ hdescends] at hnode

theorem isSettled_iff (h : Mirrors root t m) (hf : f.relativePath.Descends names) :
    m.IsSettled f ↔ ∃ text, t.node? (root.place t.workingDirectory ++ names) =
      some (.file (.text text)) ∧ Source.withoutStamp text = f.stableText := by
  rw [Memory.IsSettled, Option.map_eq_some_iff]
  simp only [h.node?_eq_iff hf]

theorem isSettled_of_isUnchanged (h : Mirrors root t m) (hf : f.relativePath.Descends names)
    (hunchanged : Directory.isUnchanged ⟨root, false⟩ t f = true) : m.IsSettled f := by
  obtain ⟨text, hread, hstable⟩ := Directory.isUnchanged_iff.mp hunchanged
  obtain ⟨place, hplace, hnode⟩ := FileTree.readText_eq_ok_iff.mp hread
  rw [FileTree.locate_eq_ok hplace, Directory.pathOf, Path.place_join _ hf] at hnode
  exact (h.isSettled_iff hf).mpr ⟨text, hnode, hstable⟩

/-- The entry may be spelled in another way than the file's path; what it takes to get there is the same, but
for the length of the path. -/
theorem isUnchanged_of_isSettled (h : Mirrors root t m) (hspelled : Spelled m)
    (hf : f.relativePath.Descends names) (hlast : Path.EndsInName f.relativePath.segments)
    {place : Place} (hreached : t'.locate (Directory.pathOf ⟨root, false⟩ f) = .ok place)
    (hsettled : m.IsSettled f) : Directory.isUnchanged ⟨root, false⟩ t f = true := by
  obtain ⟨text, hget, hstable⟩ := Option.map_eq_some_iff.mp hsettled
  obtain ⟨e, he, hcomponents, rfl⟩ := (Memory.get?_eq_some_iff h.inOrder).mp hget
  have hdescends : e.1.Descends names := hcomponents.trans hf
  obtain ⟨place', hplace', hnode⟩ := FileTree.readText_eq_ok_iff.mp (h.entry e he).2
  -- one path may be too long where the other is not, so both have to arrive somewhere
  have hlocate := FileTree.locate_respelled hdescends (hspelled e he) hf hlast hplace' hreached
  exact Directory.isUnchanged_iff.mpr
    ⟨e.2, FileTree.readText_eq_ok_iff.mpr ⟨place', hlocate, hnode⟩, hstable⟩

theorem readText_respelled (h : Mirrors root t m) {written : Place → Prop}
    (hkeeps : t.Keeps written t') {e : Path × String} (he : e ∈ m.entries)
    (hdescends : e.1.Descends names)
    (hnode : t'.node? (root.place t.workingDirectory ++ names) = some (.file (.text text))) :
    t'.readText (root.join e.1) = .ok text := by
  obtain ⟨place, hlocate, -⟩ := FileTree.readText_eq_ok_iff.mp (h.entry e he).2
  have hplace := FileTree.locate_eq_ok hlocate
  rw [Path.place_join _ hdescends] at hplace
  rw [← hplace] at hnode
  exact FileTree.readText_eq_ok_iff.mpr ⟨place, hkeeps.locate hlocate, hnode⟩

theorem insert (h : Mirrors root t m) (hf : f.relativePath.Descends names)
    (hread : t'.readText (Directory.pathOf ⟨root, false⟩ f) = .ok f.text)
    (hkeeps : t.Keeps (· = Directory.placeOf ⟨root, false⟩ t.workingDirectory f) t') :
    Mirrors root t' (m.insert f.relativePath f.text) := by
  have hplace : Directory.placeOf ⟨root, false⟩ t.workingDirectory f =
      root.place t.workingDirectory ++ names := Directory.placeOf_eq hf _
  have hnode : t'.node? (root.place t.workingDirectory ++ names) = some (.file (.text f.text)) := by
    obtain ⟨place, hlocate, hnode⟩ := FileTree.readText_eq_ok_iff.mp hread
    rwa [FileTree.locate_eq_ok hlocate, Directory.pathOf, Path.place_join _ hf,
      hkeeps.workingDirectory] at hnode
  refine ⟨h.inOrder.insertEntry _ _, fun e he => ?_, fun names' content hfile => ?_⟩
  -- the entry that is written keeps the spelling it had, and its place is the file's all the same
  · by_cases hpath : e.1.components = f.relativePath.components
    · have hdescends : e.1.Descends names := hpath.trans hf
      have htext : e.2 = f.text := h.inOrder.snd_of_mem_insertEntry he hpath
      refine ⟨⟨names, hdescends⟩, ?_⟩
      rcases Memory.fst_of_mem_insertEntry he with hnew | ⟨old, hold, hspelled⟩
      · rw [hnew, htext]
        exact hread
      · rw [← hspelled] at hdescends ⊢
        rw [htext]
        exact h.readText_respelled hkeeps hold hdescends hnode
    · have hold : e ∈ m.entries := (Memory.mem_of_mem_insertEntry he).resolve_right
        fun hnew => hpath hnew.2.1
      obtain ⟨⟨names', hdescends⟩, hread⟩ := h.entry e hold
      refine ⟨⟨names', hdescends⟩, hkeeps.readText ?_ hread⟩
      rw [hplace, Path.place_join _ hdescends]
      intro heq
      exact hpath ((List.append_cancel_left heq ▸ hdescends).trans hf.symm)
  · rw [hkeeps.workingDirectory] at hfile
    by_cases hnames : names' = names
    · rw [hnames, hnode] at hfile
      obtain ⟨e, he, hpath, htext⟩ :=
        Memory.exists_mem_insertEntry f.relativePath f.text m.entries
      refine ⟨e, he, hpath.trans (hnames ▸ hf), ?_⟩
      rw [htext]
      exact (Node.file.inj (Option.some.inj hfile)).symm
    · have hold := (hkeeps.file _ (by simpa [hplace] using hnames) content).mp hfile
      obtain ⟨e, he, hdescends, htext⟩ := h.file names' content hold
      have hpath : e.1.components ≠ f.relativePath.components := by
        rw [hdescends, hf]
        intro heq
        exact hnames (List.map_injective_iff.mpr (fun _ _ => Path.Component.name.inj) heq)
      exact ⟨e, Memory.mem_insertEntry_of_ne hpath he, hdescends, htext⟩

end Mirrors

theorem spelled_insert (h : Spelled m) (hlast : Path.EndsInName f.relativePath.segments) :
    Spelled (m.insert f.relativePath f.text) := by
  intro e he
  rcases Memory.fst_of_mem_insertEntry he with hnew | ⟨old, hold, hspelled⟩
  · rw [hnew]
    exact hlast
  · rw [← hspelled]
    exact h old hold

theorem Mirrors.write {outcome : WriteOutcome} (h : Mirrors root t m) (hspelled : Spelled m)
    (hf : f.relativePath.Descends names) (hlast : Path.EndsInName f.relativePath.segments)
    (hwrite : Directory.write ⟨root, false⟩ t f = (t', .ok outcome)) :
    (Memory.write m f).2 = .ok outcome ∧ Mirrors root t' (Memory.write m f).1 ∧
      Spelled (Memory.write m f).1 := by
  rcases Directory.write_eq_ok rfl hwrite with ⟨hunchanged, rfl, rfl⟩ | ⟨hchanged, rfl, hread, hkeeps⟩
  · rw [Memory.write_of_isSettled (h.isSettled_of_isUnchanged hf hunchanged)]
    exact ⟨rfl, h, hspelled⟩
  · have hnot : ¬m.IsSettled f := by
      intro hsettled
      obtain ⟨place, hreached, -⟩ := FileTree.readText_eq_ok_iff.mp hread
      rw [h.isUnchanged_of_isSettled hspelled hf hlast hreached hsettled] at hchanged
      cases hchanged
    rw [Memory.write_of_not_isSettled hnot]
    exact ⟨rfl, h.insert hf hread hkeeps, spelled_insert hspelled hlast⟩

theorem Mirrors.trace {files : List File} (h : Mirrors root t m) (hspelled : Spelled m)
    (hfiles : ∀ f ∈ files, (∃ names, f.relativePath.Descends names) ∧
      Path.EndsInName f.relativePath.segments)
    (hok : ∀ r ∈ Store.trace (Directory.write ⟨root, false⟩) t files, ∃ outcome, r.2 = .ok outcome) :
    List.Forall₂ (fun r r' => r.2 = r'.2 ∧ Mirrors root r.1 r'.1)
      (Store.trace (Directory.write ⟨root, false⟩) t files) (Store.trace Memory.write m files) := by
  induction files generalizing t m with
  | nil => exact .nil
  | cons f files ih =>
    obtain ⟨⟨⟨names, hf⟩, hlast⟩, hfiles⟩ := List.forall_mem_cons.mp hfiles
    rcases hwrite : Directory.write ⟨root, false⟩ t f with ⟨t', result⟩
    simp only [Store.trace, hwrite, List.forall_mem_cons] at hok ⊢
    obtain ⟨⟨outcome, rfl⟩, hok⟩ := hok
    obtain ⟨hsame, hmirrors, hspelled⟩ := h.write hspelled hf hlast hwrite
    exact .cons ⟨hsame.symm, hmirrors⟩ (ih hmirrors hspelled hfiles hok)

end StateHolders.Store
