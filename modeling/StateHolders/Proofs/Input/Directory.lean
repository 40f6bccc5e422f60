import StateHolders.Proofs.Except
import StateHolders.Proofs.Input.File

/-! Reading a directory. The files are collected one directory after the other, in whatever order each of them
is listed; sorting makes one sequence of them. -/

namespace StateHolders.Input

open FileTree (Listing)

variable {t : FileTree} {p q : Path} {name : String} {names : List String} {content : Content}

def collect (ht : t.IsTree) (listing : t.Listing) (p : Path) : List Path :=
  (listing.names (p.place t.workingDirectory)).attach.flatMap fun ⟨name, _⟩ =>
    if t.isDirectory (p.join ⟨name⟩) then collect ht listing (p.join ⟨name⟩)
    else if isJsonFile (p.join ⟨name⟩) then [p.join ⟨name⟩] else []
termination_by t.depth - (p.place t.workingDirectory).length
decreasing_by
  have hnode := listing.mem_iff.mp ‹name ∈ _›
  have hname := ht.isEntryName_below hnode name List.mem_cons_self
  have hdepth := FileTree.length_le_depth hnode
  rw [Path.place_join _ hname.descends]
  rw [List.length_append, List.length_singleton] at hdepth ⊢
  omega

def readListed (ht : t.IsTree) (listing : t.Listing) (p : Path) :
    Except InputError (List Declaration) :=
  if t.isDirectory p then do
    return (← ((collect ht listing p).mergeSort Path.le).mapM (readFile t)).flatten
  else readFile t p

/-- What files come to that are read one after the other: the declarations in all of them, or the error of the
first that has none. -/
inductive ReadsTo : List (Path × Content) → Except InputError (List Declaration) → Prop
  | all {files : List (Path × Content)} {declarations : List (List Declaration)}
      (h : List.Forall₂ (fun file ds => outcome file.1 file.2 = .ok ds) files declarations) :
      ReadsTo files (.ok declarations.flatten)
  | first {before after : List (Path × Content)} {file : Path × Content} {e : InputError}
      (hbefore : ∀ file' ∈ before, ∃ ds, outcome file'.1 file'.2 = .ok ds)
      (hfile : outcome file.1 file.2 = .error e) : ReadsTo (before ++ file :: after) (.error e)

theorem readsTo_mapM (files : List (Path × Content)) :
    ReadsTo files (return (← files.mapM fun file => outcome file.1 file.2).flatten) := by
  cases h : files.mapM fun file => outcome file.1 file.2 with
  | ok declarations => exact .all (mapM_eq_ok_iff.mp h)
  | error e =>
    obtain ⟨before, file, after, rfl, hbefore, hfile⟩ := exists_of_mapM_eq_error h
    exact .first hbefore hfile

theorem isJsonFile_join_iff (h : Path.IsEntryName name) :
    isJsonFile (p.join ⟨name⟩) = true ↔ ∃ stem, stem ≠ "" ∧ name = stem ++ ".json" := by
  have hlast : (p.join ⟨name⟩).segments.getLast? = some name := by
    rw [Path.segments_join h.descends.isAbsolute_eq_false, h.segments, List.getLast?_concat]
  rw [isJsonFile, hlast, decide_eq_true_eq, Option.bind_some, Path.extension?_eq_some_iff (by decide)]
  simp only [String.append_assoc]
  rfl

theorem mem_collect_iff {ht : t.IsTree} {listing : t.Listing} :
    q ∈ collect ht listing p ↔ isJsonFile q = true ∧ t.HasLeafBelow p q := by
  fun_induction collect ht listing p with
  | case1 p ih =>
    have hentry : ∀ name, name ∈ listing.names (p.place t.workingDirectory) →
        ((q ∈ if t.isDirectory (p.join ⟨name⟩) = true then collect ht listing (p.join ⟨name⟩)
          else if isJsonFile (p.join ⟨name⟩) = true then [p.join ⟨name⟩] else []) ↔
        isJsonFile q = true ∧
          if t.isDirectory (p.join ⟨name⟩) = true then t.HasLeafBelow (p.join ⟨name⟩) q
          else q = p.join ⟨name⟩) := by
      intro name hlisted
      split
      · exact ih name hlisted
      · split
        · next hjson =>
          rw [List.mem_singleton, iff_and_self]
          exact fun hq => hq ▸ hjson
        · next hjson => exact iff_of_false List.not_mem_nil fun ⟨hq, heq⟩ => hjson (heq ▸ hq)
    rw [List.mem_flatMap, ht.hasLeafBelow_iff, ← exists_and_left]
    constructor
    · rintro ⟨⟨name, hlisted⟩, -, hq⟩
      obtain ⟨hjson, hbelow⟩ := (hentry name hlisted).mp hq
      exact ⟨name, hjson, listing.mem_iff.mp hlisted, hbelow⟩
    · rintro ⟨name, hjson, hnode, hbelow⟩
      have hlisted := listing.mem_iff.mpr hnode
      exact ⟨⟨name, hlisted⟩, List.mem_attach _ _, (hentry name hlisted).mpr ⟨hjson, hbelow⟩⟩

theorem isPrefix_of_mem_entry {ht : t.IsTree} {listing : t.Listing} (hname : Path.IsEntryName name)
    (hq : q ∈ if t.isDirectory (p.join ⟨name⟩) = true then collect ht listing (p.join ⟨name⟩)
      else if isJsonFile (p.join ⟨name⟩) = true then [p.join ⟨name⟩] else []) :
    p.components ++ [.name name] <+: q.components := by
  have hjoin : (p.join ⟨name⟩).components = p.components ++ [.name name] :=
    Path.components_join hname.descends
  rw [← hjoin]
  split at hq
  · exact ht.isPrefix_of_hasLeafBelow (mem_collect_iff.mp hq).2
  · split at hq
    · obtain rfl := List.mem_singleton.mp hq
      exact List.prefix_rfl
    · cases hq

theorem pairwise_collect (ht : t.IsTree) (listing : t.Listing) (p : Path) :
    (collect ht listing p).Pairwise (·.components ≠ ·.components) := by
  fun_induction collect ht listing p with
  | case1 p ih =>
    have hnames : ∀ name ∈ listing.names (p.place t.workingDirectory), Path.IsEntryName name :=
      fun name hlisted => ht.isEntryName_below (listing.mem_iff.mp hlisted) name List.mem_cons_self
    rw [List.pairwise_flatMap]
    constructor
    · rintro ⟨name, hlisted⟩ -
      dsimp only
      split
      · exact ih name hlisted
      · split
        · exact List.pairwise_singleton _ _
        · exact .nil
    · refine (List.nodup_attach.mpr (listing.nodup _)).imp ?_
      rintro ⟨a, ha⟩ ⟨b, hb⟩ hne x hx y hy hxy
      obtain ⟨r, hr⟩ := isPrefix_of_mem_entry (hnames a ha) hx
      obtain ⟨r', hr'⟩ := isPrefix_of_mem_entry (hnames b hb) hy
      rw [← hr, ← hr', List.append_assoc, List.append_assoc, List.append_cancel_left_eq] at hxy
      simp_all

theorem pairwise_filePaths (ht : t.IsTree) (p : Path) :
    (filePaths t p).Pairwise (·.rank < ·.rank) := (ht.pairwise_leaves p).sublist List.filter_sublist

theorem mergeSort_collect (ht : t.IsTree) (listing : t.Listing) (hp : t.isDirectory p = true) :
    (collect ht listing p).mergeSort Path.le = filePaths t p := by
  refine Path.eq_of_pairwise_rank (Path.pairwise_rank_mergeSort (pairwise_collect ht listing p))
    (pairwise_filePaths ht p) fun q => ?_
  rw [List.mem_mergeSort, mem_collect_iff, filePaths, List.mem_filter, ht.mem_leaves_iff hp, and_comm]

theorem mem_filePaths_iff (ht : t.IsTree) (hp : t.isDirectory p = true) (h : t.ReadsDirectories p) :
    q ∈ filePaths t p ↔ ∃ names stem, stem ≠ "" ∧ q = p.below (names ++ [stem ++ ".json"]) ∧
      t.IsFile (p.place t.workingDirectory ++ names ++ [stem ++ ".json"]) := by
  rw [filePaths, List.mem_filter, ht.mem_leaves_iff hp, h.hasLeafBelow_iff ht hp]
  constructor
  · rintro ⟨⟨names, hne, rfl, hfile⟩, hjson⟩
    obtain ⟨names, name, rfl⟩ := List.eq_nil_or_concat names |>.resolve_left hne
    have hname := ht.isEntryName_below (FileTree.isFile_iff.mp hfile).1 name (by simp)
    rw [List.concat_eq_append] at hfile hjson ⊢
    rw [Path.below_concat, isJsonFile_join_iff hname] at hjson
    obtain ⟨stem, hstem, rfl⟩ := hjson
    exact ⟨names, stem, hstem, rfl, by rwa [List.append_assoc]⟩
  · rintro ⟨names, stem, hstem, rfl, hfile⟩
    have hname := ht.isEntryName (FileTree.isFile_iff.mp hfile).1 (stem ++ ".json") (by simp)
    rw [List.append_assoc] at hfile
    refine ⟨⟨_, by simp, rfl, hfile⟩, ?_⟩
    rw [Path.below_concat, isJsonFile_join_iff hname]
    exact ⟨stem, hstem, rfl⟩

theorem place_below (ht : t.IsTree) (hnode : t.node? (p.place t.workingDirectory ++ names ++ [name]) ≠ none) :
    (p.below (names ++ [name])).place t.workingDirectory = p.place t.workingDirectory ++ names ++ [name] := by
  rw [List.append_assoc] at hnode ⊢
  exact Path.place_below (ht.isEntryName_below hnode) t.workingDirectory

theorem readFile_below (ht : t.IsTree) (hp : t.isDirectory p = true) (h : t.ReadsDirectories p)
    (hnode : t.node? (p.place t.workingDirectory ++ names ++ [name]) = some (.file content)) :
    readFile t (p.below (names ++ [name])) = outcome (p.below (names ++ [name])) content := by
  have hsome : t.node? (p.place t.workingDirectory ++ names ++ [name]) ≠ none := by
    rw [hnode]
    exact nofun
  have hname : ∀ name' ∈ names ++ [name], Path.IsEntryName name' := by
    rw [List.append_assoc] at hsome
    exact ht.isEntryName_below hsome
  rw [List.forall_mem_append] at hname
  obtain ⟨place, hlocate, hplace⟩ :=
    FileTree.isDirectory_iff.mp (h.isDirectory_below ht hp (List.cons_ne_nil name []) hsome)
  obtain rfl : place = p.place t.workingDirectory ++ names := by
    rw [FileTree.locate_eq_ok hlocate, Path.place_below hname.1]
  rw [Path.below_concat]
  exact readFile_eq_outcome
    (FileTree.locate_join_of_isEntryName (hname.2 name List.mem_cons_self) hlocate hplace) hnode

theorem exists_content (ht : t.IsTree) (hp : t.isDirectory p = true) (h : t.ReadsDirectories p)
    (hq : q ∈ filePaths t p) : ∃ content, t.node? (q.place t.workingDirectory) = some (.file content) ∧
      readFile t q = outcome q content := by
  obtain ⟨names, stem, -, rfl, content, hnode⟩ := (mem_filePaths_iff ht hp h).mp hq
  refine ⟨content, ?_, readFile_below ht hp h hnode⟩
  rwa [place_below ht (by rw [hnode]; exact nofun)]

/-- A directory is read in one way, in whatever order the directories in it are listed. Where all of these can be
read, the answer is what the declaration files below it come to by their contents, each of them once and in
increasing order of their paths. -/
theorem read_directory {t : FileTree} (ht : t.IsTree) {p : Path} (hp : t.isDirectory p = true) :
    (∀ listing, readListed ht listing p = read t p) ∧
      (t.ReadsDirectories p → ∃ files : List (Path × Content), files.Pairwise (·.1.rank < ·.1.rank) ∧
        ReadsTo files (read t p) ∧
        ∀ q content, (q, content) ∈ files ↔ ∃ names stem, stem ≠ "" ∧
          q = p.below (names ++ [stem ++ ".json"]) ∧
          t.node? (p.place t.workingDirectory ++ names ++ [stem ++ ".json"]) = some (.file content)) := by
  refine ⟨fun listing => ?_, fun hread => ?_⟩
  · rw [readListed, read, mergeSort_collect ht listing hp]
  · have hmem := fun q => mem_filePaths_iff (q := q) ht hp hread
    -- a path is listed once, so what is at its place makes one pair of it
    have : Nonempty Content := ⟨.text ""⟩
    choose! content hnode hfile using fun q hq => exists_content (q := q) ht hp hread hq
    refine ⟨(filePaths t p).map fun q => (q, content q), List.pairwise_map.mpr (pairwise_filePaths ht p), ?_,
      fun q content' => ?_⟩
    · have hmapM := readsTo_mapM ((filePaths t p).map fun q => (q, content q))
      rw [mapM_map_of_eq fun q hq => (hfile q hq).symm] at hmapM
      rwa [read, if_pos hp]
    · rw [List.mem_map]
      constructor
      · rintro ⟨q, hq, ⟨⟩⟩
        obtain ⟨names, stem, hstem, rfl, content', hnode'⟩ := (hmem q).mp hq
        refine ⟨names, stem, hstem, rfl, ?_⟩
        rw [← place_below ht (by rw [hnode']; exact nofun)]
        exact hnode _ hq
      · rintro ⟨names, stem, hstem, rfl, hnode'⟩
        have hq := (hmem _).mpr ⟨names, stem, hstem, rfl, content', hnode'⟩
        have hsame := hnode _ hq
        rw [place_below ht (by rw [hnode']; exact nofun), hnode'] at hsame
        obtain rfl := Node.file.inj (Option.some.inj hsame)
        exact ⟨_, hq, rfl⟩

/-! Two directories. In one a directory is named like a file, and of the files not all are named like one; in the
other a file is no text, and the one after it no JSON. -/

def plain (name : String) : Declaration where
  qualifiedName := name
  givenPackage := some "app"
  params := []
  properties := []
  markers := [.remember]

def plainJson (name : String) : Json :=
  .array [.array [.string name, .string "app", .array [], .array [], .array [.array [.string "remember"]]]]

def page (name : String) : Content := .text (String.ofList (plainJson name).compact)

def shelf : FileTree where
  nodes := [(["in"], .directory), (["in", ".json"], .file (.text "")), (["in", "C.JSON"], .file (.binary [0xFF])),
    (["in", "a.json"], .directory), (["in", "a.json", "z.json"], .file (page "app.Login")),
    (["in", "a.json.json"], .file (page "app.Note"))]
  workingDirectory := []

def tornShelf : FileTree where
  nodes := [(["in"], .directory), (["in", "a.json"], .file (page "app.Login")),
    (["in", "b.json"], .file (.binary [0xFF])), (["in", "c.json"], .file (.text ""))]
  workingDirectory := []

theorem readFile_page (hread : t.readText q = .ok (String.ofList (plainJson name).compact))
    (hcompact : Json.isCompact Json.maxDepth (plainJson name) = true) : readFile t q = .ok [plain name] := by
  rw [readFile, hread]
  exact parse_compact hcompact rfl

theorem filePaths_of_sorted {place : Place} {paths : List Path} (hlocate : t.locate p = .ok place)
    (hleaves : (((t.under place).map Prod.fst).filter (t.isLeaf p)).map p.below = paths)
    (hsorted : paths.Pairwise (·.le · = true)) : filePaths t p = paths.filter isJsonFile := by
  simp only [filePaths, FileTree.leaves, hlocate]
  rw [hleaves, List.mergeSort_of_pairwise hsorted]

theorem read_shelf : read shelf ⟨"in"⟩ = .ok [plain "app.Login", plain "app.Note"] := by
  have hlocate : shelf.locate ⟨"in"⟩ = .ok ["in"] := by decide
  have hpaths : filePaths shelf ⟨"in"⟩ = [⟨"in/a.json/z.json"⟩, ⟨"in/a.json.json"⟩] := by
    rw [filePaths_of_sorted hlocate rfl (by decide +kernel)]
    decide +kernel
  have hlogin : readFile shelf ⟨"in/a.json/z.json"⟩ = .ok [plain "app.Login"] :=
    readFile_page (by decide +kernel) (by decide +kernel)
  have hnote : readFile shelf ⟨"in/a.json.json"⟩ = .ok [plain "app.Note"] :=
    readFile_page (by decide +kernel) (by decide +kernel)
  rw [read, if_pos (by decide), hpaths, List.mapM_cons, List.mapM_cons, hlogin, hnote]
  rfl

theorem read_tornShelf : read tornShelf ⟨"in"⟩ = .error (.unreadable ⟨"in/b.json"⟩ .notText) := by
  have hlocate : tornShelf.locate ⟨"in"⟩ = .ok ["in"] := by decide
  have hpaths : filePaths tornShelf ⟨"in"⟩ = [⟨"in/a.json"⟩, ⟨"in/b.json"⟩, ⟨"in/c.json"⟩] := by
    rw [filePaths_of_sorted hlocate rfl (by decide +kernel)]
    decide +kernel
  have hlogin : readFile tornShelf ⟨"in/a.json"⟩ = .ok [plain "app.Login"] :=
    readFile_page (by decide +kernel) (by decide +kernel)
  have htorn : readFile tornShelf ⟨"in/b.json"⟩ = .error (.unreadable ⟨"in/b.json"⟩ .notText) := by rfl
  rw [read, if_pos (by decide), hpaths, List.mapM_cons, List.mapM_cons, hlogin, htorn]
  rfl

theorem read_directory_shelf :
    (∃ ht : shelf.IsTree, Nonempty shelf.Listing ∧
      ∀ listing, readListed ht listing ⟨"in"⟩ = .ok [plain "app.Login", plain "app.Note"]) ∧
    shelf.isDirectory ⟨"in"⟩ = true ∧ shelf.ReadsDirectories ⟨"in"⟩ ∧
    (∃ files, ReadsTo files (.ok [plain "app.Login", plain "app.Note"]) ∧
      (⟨"in/a.json/z.json"⟩, page "app.Login") ∈ files ∧ (⟨"in/a.json.json"⟩, page "app.Note") ∈ files) ∧
    tornShelf.IsTree ∧ tornShelf.isDirectory ⟨"in"⟩ = true ∧ tornShelf.ReadsDirectories ⟨"in"⟩ ∧
    ∃ files, ReadsTo files (.error (.unreadable ⟨"in/b.json"⟩ .notText)) ∧
      (⟨"in/b.json"⟩, .binary [0xFF]) ∈ files ∧ (⟨"in/c.json"⟩, .text "") ∈ files := by
  have ht : shelf.IsTree := by decide
  have hp : shelf.isDirectory ⟨"in"⟩ = true := by decide
  have hdirectories : shelf.ReadsDirectories ⟨"in"⟩ := (FileTree.readsDirectories_iff ht).mpr (by decide)
  have ht' : tornShelf.IsTree := by decide
  have hp' : tornShelf.isDirectory ⟨"in"⟩ = true := by decide
  have hdirectories' : tornShelf.ReadsDirectories ⟨"in"⟩ := (FileTree.readsDirectories_iff ht').mpr (by decide)
  obtain ⟨hlisted, hread⟩ := read_directory ht hp
  obtain ⟨-, hread'⟩ := read_directory ht' hp'
  obtain ⟨files, -, hreads, hmem⟩ := hread hdirectories
  obtain ⟨files', -, hreads', hmem'⟩ := hread' hdirectories'
  rw [read_shelf] at hreads
  rw [read_tornShelf] at hreads'
  refine ⟨⟨ht, ⟨.stored ht⟩, fun listing => (hlisted listing).trans read_shelf⟩, hp, hdirectories,
    ⟨files, hreads, ?_, ?_⟩, ht', hp', hdirectories', files', hreads', ?_, ?_⟩
  · exact (hmem _ _).mpr ⟨["a.json"], "z", by decide, by decide, rfl⟩
  · exact (hmem _ _).mpr ⟨[], "a.json", by decide, by decide, rfl⟩
  · exact (hmem' _ _).mpr ⟨[], "b", by decide, by decide, rfl⟩
  · exact (hmem' _ _).mpr ⟨[], "c", by decide, by decide, rfl⟩

end StateHolders.Input
