import StateHolders.Proofs.FileTree.Rooted
import StateHolders.Proofs.Path.Entry
import StateHolders.Proofs.Path.Order

/-! Trees of a file system, and walks down from a directory. A directory can be listed in any order; a walk that
can enter every directory gets to every file. -/

namespace StateHolders.FileTree

variable {t : FileTree} {p : Path} {place : Place} {name : String} {names : List String} {node : Node}

/-- Everything is in a directory, and there once, under a name that an entry can have. -/
structure IsTree (t : FileTree) : Prop where
  rooted : t.IsRooted
  nodup : (t.nodes.map Prod.fst).Nodup
  names : ∀ e ∈ t.nodes, ∀ name ∈ e.1, Path.IsEntryName name

instance (t : FileTree) : Decidable t.IsTree :=
  decidable_of_iff (t.IsRooted ∧ (t.nodes.map Prod.fst).Nodup ∧
      ∀ e ∈ t.nodes, ∀ name ∈ e.1, Path.IsEntryName name)
    ⟨fun ⟨h, h', h''⟩ => ⟨h, h', h''⟩, fun h => ⟨h.rooted, h.nodup, h.names⟩⟩

theorem node?_of_ne_nil (h : place ≠ []) : t.node? place = t.nodes.lookup place := if_neg h

theorem IsTree.mem_nodes_iff (ht : t.IsTree) (hne : place ≠ []) :
    (place, node) ∈ t.nodes ↔ t.node? place = some node := by
  rw [node?_of_ne_nil hne]
  exact ⟨lookup_of_mem ht.nodup, mem_of_lookup⟩

theorem IsTree.isEntryName (ht : t.IsTree) (h : t.node? place ≠ none) :
    ∀ name ∈ place, Path.IsEntryName name := by
  by_cases hne : place = []
  · simp [hne]
  · obtain ⟨node, hnode⟩ := Option.ne_none_iff_exists'.mp h
    exact ht.names _ ((ht.mem_nodes_iff hne).mpr hnode)

theorem mem_under_iff : (names, node) ∈ t.under place ↔ names ≠ [] ∧ (place ++ names, node) ∈ t.nodes := by
  rw [under, List.mem_filterMap]
  constructor
  · rintro ⟨⟨place', node'⟩, hmem, h⟩
    dsimp only at h
    split_ifs at h with hunder
    obtain ⟨rfl, rfl⟩ := Prod.mk.inj (Option.some.inj h)
    rw [Bool.and_eq_true, List.isPrefixOf_iff_prefix, decide_eq_true_eq] at hunder
    obtain ⟨⟨names, rfl⟩, hne⟩ := hunder
    rw [List.drop_left]
    exact ⟨fun hnil => hne (by rw [hnil, List.append_nil]), hmem⟩
  · rintro ⟨hne, hmem⟩
    refine ⟨_, hmem, ?_⟩
    simp [hne]

theorem IsTree.nodup_under (ht : t.IsTree) (place : Place) : ((t.under place).map Prod.fst).Nodup := by
  have hunder : (t.under place).map Prod.fst = (t.nodes.map Prod.fst).filterMap fun q =>
      if place.isPrefixOf q && q ≠ place then some (q.drop place.length) else none := by
    rw [under, List.map_filterMap, List.filterMap_map]
    refine List.filterMap_congr fun e _ => ?_
    simp only [Function.comp_apply]
    split_ifs <;> rfl
  rw [hunder]
  refine List.Nodup.filterMap (fun q q' names hq hq' => ?_) ht.nodup
  rw [Option.mem_def] at hq hq'
  split_ifs at hq hq' with hplace hplace'
  rw [Bool.and_eq_true, List.isPrefixOf_iff_prefix] at hplace hplace'
  obtain ⟨⟨r, rfl⟩, -⟩ := hplace
  obtain ⟨⟨r', rfl⟩, -⟩ := hplace'
  simp_all

/-! The depth of a tree. No walk down goes deeper. -/

def depth (t : FileTree) : Nat := t.nodes.foldr (fun e n => max e.1.length n) 0

theorem length_le_depth (h : t.node? place ≠ none) : place.length ≤ t.depth := by
  by_cases hne : place = []
  · simp [hne]
  · obtain ⟨node, hnode⟩ := Option.ne_none_iff_exists'.mp h
    rw [node?_of_ne_nil hne] at hnode
    have hmem := mem_of_lookup hnode
    rw [depth]
    generalize t.nodes = nodes at hmem
    induction nodes with
    | nil => cases hmem
    | cons entry nodes ih =>
      rw [List.foldr_cons]
      rcases List.mem_cons.mp hmem with rfl | hmem
      · exact Nat.le_max_left _ _
      · exact Nat.le_trans (ih hmem) (Nat.le_max_right _ _)

/-! Listings. -/

/-- An order in which the entries of each directory are listed. -/
structure Listing (t : FileTree) where
  names : Place → List String
  nodup : ∀ place, (names place).Nodup
  mem_iff : ∀ {place name}, name ∈ names place ↔ t.node? (place ++ [name]) ≠ none

namespace Listing

def nameIn? (directory place : Place) : Option String :=
  place.getLast?.filter fun name => place = directory ++ [name]

theorem nameIn?_eq_some_iff {directory : Place} : nameIn? directory place = some name ↔
    place = directory ++ [name] := by
  rw [nameIn?, Option.filter_eq_some_iff, decide_eq_true_eq]
  exact and_iff_right_of_imp fun h => by rw [h, List.getLast?_concat]

def stored (ht : t.IsTree) : t.Listing where
  names place := (t.nodes.map Prod.fst).filterMap (nameIn? place)
  nodup place := by
    refine List.Nodup.filterMap (fun q q' name hq hq' => ?_) ht.nodup
    rw [Option.mem_def, nameIn?_eq_some_iff] at hq hq'
    rw [hq, hq']
  mem_iff := by
    intro place name
    have hne : place ++ [name] ≠ [] := by simp
    simp only [List.mem_filterMap, nameIn?_eq_some_iff, exists_eq_right, List.mem_map, Prod.exists,
      exists_and_right, ht.mem_nodes_iff hne, Option.ne_none_iff_exists']

end Listing

/-! Walks down. A walk is held up by an entry whose path does not lead to a directory. -/

/-- The path leads down through names to an entry that holds up a walk. -/
def HasLeafBelow (t : FileTree) (p q : Path) : Prop :=
  ∃ names, names ≠ [] ∧ q = p.below names ∧ t.node? (p.place t.workingDirectory ++ names) ≠ none ∧
    t.isLeaf p names = true

theorem isDirectory_iff : t.isDirectory p = true ↔
    ∃ place, t.locate p = .ok place ∧ t.node? place = some .directory := by
  unfold isDirectory
  split <;> simp_all

theorem isLeaf_singleton : t.isLeaf p [name] = !t.isDirectory (p.join ⟨name⟩) := rfl

theorem isLeaf_cons_cons {name' : String} : t.isLeaf p (name :: name' :: names) =
    (t.isDirectory (p.join ⟨name⟩) && t.isLeaf (p.join ⟨name⟩) (name' :: names)) := by
  have hrange : ∀ n, (List.range (n + 1)).drop 1 = (List.range n).map Nat.succ := fun n => by
    rw [List.range_succ_eq_map, List.drop_one, List.tail_cons]
  simp only [isLeaf, List.length_cons, hrange]
  rw [List.range_succ_eq_map]
  simp [Function.comp_def, Bool.and_assoc, Path.below]

namespace IsTree

theorem isEntryName_below (ht : t.IsTree) (h : t.node? (place ++ names) ≠ none) :
    ∀ name ∈ names, Path.IsEntryName name :=
  fun name hname => ht.isEntryName h name (List.mem_append_right _ hname)

theorem isPrefix_of_hasLeafBelow (ht : t.IsTree) {q : Path} (h : t.HasLeafBelow p q) :
    p.components <+: q.components := by
  obtain ⟨names, -, rfl, hnode, -⟩ := h
  rw [Path.components_below (ht.isEntryName_below hnode)]
  exact List.prefix_append _ _

theorem hasLeafBelow_iff (ht : t.IsTree) {q : Path} : t.HasLeafBelow p q ↔
    ∃ name, t.node? (p.place t.workingDirectory ++ [name]) ≠ none ∧
      if t.isDirectory (p.join ⟨name⟩) = true then t.HasLeafBelow (p.join ⟨name⟩) q
      else q = p.join ⟨name⟩ := by
  constructor
  · rintro ⟨names, hne, rfl, hnode, hleaf⟩
    obtain ⟨name, names, rfl⟩ := List.exists_cons_of_ne_nil hne
    have hname := ht.isEntryName_below hnode name List.mem_cons_self
    cases names with
    | nil =>
      rw [isLeaf_singleton, Bool.not_eq_true', ← Bool.not_eq_true] at hleaf
      refine ⟨name, hnode, ?_⟩
      rw [if_neg hleaf]
      rfl
    | cons name' names =>
      -- the walk goes on from the first entry, which is therefore a directory
      rw [isLeaf_cons_cons, Bool.and_eq_true] at hleaf
      rw [List.append_cons] at hnode
      have habove := ht.rooted.directory_of_append (List.cons_ne_nil _ _) hnode
      refine ⟨name, by rw [habove]; exact nofun, ?_⟩
      rw [if_pos hleaf.1]
      refine ⟨name' :: names, List.cons_ne_nil _ _, rfl, ?_, hleaf.2⟩
      rwa [Path.place_join _ hname.descends]
  · rintro ⟨name, hnode, hq⟩
    have hname := ht.isEntryName_below hnode name List.mem_cons_self
    split at hq
    · next hdirectory =>
      obtain ⟨names, hne, rfl, hnames, hleaf⟩ := hq
      obtain ⟨name', names, rfl⟩ := List.exists_cons_of_ne_nil hne
      rw [Path.place_join _ hname.descends, List.append_assoc] at hnames
      refine ⟨name :: name' :: names, List.cons_ne_nil _ _, rfl, hnames, ?_⟩
      rw [isLeaf_cons_cons, hdirectory, hleaf]
      rfl
    · next hfile =>
      refine ⟨[name], List.cons_ne_nil _ _, hq, hnode, ?_⟩
      rwa [isLeaf_singleton, Bool.not_eq_true', ← Bool.not_eq_true]

theorem mem_leaves_iff (ht : t.IsTree) (hp : t.isDirectory p = true) {q : Path} :
    q ∈ t.leaves p ↔ t.HasLeafBelow p q := by
  obtain ⟨place, hlocate, -⟩ := isDirectory_iff.mp hp
  simp only [leaves, hlocate, locate_eq_ok hlocate, List.mem_mergeSort, List.mem_map, List.mem_filter]
  constructor
  · rintro ⟨_, ⟨⟨⟨names, node⟩, hmem, rfl⟩, hleaf⟩, rfl⟩
    obtain ⟨hne, hmem⟩ := mem_under_iff.mp hmem
    have hnode := (ht.mem_nodes_iff (by simp [hne])).mp hmem
    exact ⟨names, hne, rfl, by simp [hnode], hleaf⟩
  · rintro ⟨names, hne, rfl, hnode, hleaf⟩
    obtain ⟨node, hnode⟩ := Option.ne_none_iff_exists'.mp hnode
    have hmem := (ht.mem_nodes_iff (by simp [hne])).mpr hnode
    exact ⟨names, ⟨⟨_, mem_under_iff.mpr ⟨hne, hmem⟩, rfl⟩, hleaf⟩, rfl⟩

theorem pairwise_leaves (ht : t.IsTree) (p : Path) : (t.leaves p).Pairwise (·.rank < ·.rank) := by
  unfold leaves
  split
  · next place hlocate =>
    refine Path.pairwise_rank_mergeSort (List.pairwise_map.mpr ?_)
    have hnames : ∀ names ∈ (t.under place).map Prod.fst, ∀ name ∈ names, Path.IsEntryName name := by
      intro names hmem name hname
      obtain ⟨⟨_, node⟩, hunder, rfl⟩ := List.mem_map.mp hmem
      exact ht.names _ (mem_under_iff.mp hunder).2 name (List.mem_append_right _ hname)
    refine ((ht.nodup_under place).sublist List.filter_sublist).imp_of_mem fun hmem hmem' hne heq => ?_
    exact hne (Path.below_injective (hnames _ (List.mem_of_mem_filter hmem))
      (hnames _ (List.mem_of_mem_filter hmem')) heq)
  · exact .nil

end IsTree

/-! Directories that can all be read. A path that is too long leads nowhere, not even to a directory; where no
directory has such a path, files alone hold up a walk. -/

def IsFile (t : FileTree) (place : Place) : Prop := ∃ content, t.node? place = some (.file content)

theorem isFile_iff : t.IsFile place ↔ t.node? place ≠ none ∧ t.node? place ≠ some .directory := by
  rw [IsFile]
  cases t.node? place with
  | none => simp
  | some node => cases node <;> simp

/-- The path of every directory under this one leads to it. -/
def ReadsDirectories (t : FileTree) (p : Path) : Prop :=
  ∀ names, names ≠ [] → t.node? (p.place t.workingDirectory ++ names) = some .directory →
    t.isDirectory (p.below names) = true

theorem readsDirectories_iff (ht : t.IsTree) : t.ReadsDirectories p ↔
    ∀ e ∈ t.under (p.place t.workingDirectory), e.2 = .directory → t.isDirectory (p.below e.1) = true := by
  constructor
  · rintro h ⟨names, node⟩ hmem rfl
    obtain ⟨hne, hnode⟩ := mem_under_iff.mp hmem
    exact h names hne ((ht.mem_nodes_iff (by simp [hne])).mp hnode)
  · intro h names hne hnode
    have hmem := (ht.mem_nodes_iff (by simp [hne])).mpr hnode
    exact h (names, .directory) (mem_under_iff.mpr ⟨hne, hmem⟩) rfl

namespace ReadsDirectories

theorem isDirectory_below_iff (h : t.ReadsDirectories p) (ht : t.IsTree) (hne : names ≠ [])
    (hnode : t.node? (p.place t.workingDirectory ++ names) ≠ none) :
    t.isDirectory (p.below names) = true ↔
      t.node? (p.place t.workingDirectory ++ names) = some .directory := by
  refine ⟨fun hdirectory => ?_, h names hne⟩
  obtain ⟨place, hlocate, hplace⟩ := isDirectory_iff.mp hdirectory
  rwa [locate_eq_ok hlocate, Path.place_below (ht.isEntryName_below hnode)] at hplace

theorem isDirectory_below (h : t.ReadsDirectories p) (ht : t.IsTree) (hp : t.isDirectory p = true)
    {rest : List String} (hrest : rest ≠ [])
    (hnode : t.node? (p.place t.workingDirectory ++ names ++ rest) ≠ none) :
    t.isDirectory (p.below names) = true := by
  by_cases hnil : names = []
  · rw [hnil]
    exact hp
  · exact h names hnil (ht.rooted.directory_of_append hrest hnode)

theorem isLeaf_iff (h : t.ReadsDirectories p) (ht : t.IsTree) (hp : t.isDirectory p = true)
    (hne : names ≠ []) (hnode : t.node? (p.place t.workingDirectory ++ names) ≠ none) :
    t.isLeaf p names = true ↔ t.IsFile (p.place t.workingDirectory ++ names) := by
  have habove : ∀ n < names.length, t.isDirectory (p.below (names.take n)) = true := by
    intro n hn
    have hrest : names.drop n ≠ [] := by simpa using hn
    refine h.isDirectory_below ht hp hrest ?_
    rwa [List.append_assoc, List.take_append_drop]
  rw [isLeaf, Bool.and_eq_true, and_iff_right]
  · rw [Bool.not_eq_true', ← Bool.not_eq_true, h.isDirectory_below_iff ht hne hnode, isFile_iff,
      and_iff_right hnode]
  · exact List.all_eq_true.mpr fun n hn => habove n (List.mem_range.mp (List.mem_of_mem_drop hn))

theorem hasLeafBelow_iff (h : t.ReadsDirectories p) (ht : t.IsTree) (hp : t.isDirectory p = true)
    {q : Path} : t.HasLeafBelow p q ↔ ∃ names, names ≠ [] ∧ q = p.below names ∧
      t.IsFile (p.place t.workingDirectory ++ names) := by
  refine exists_congr fun names => and_congr_right fun hne => and_congr_right fun _ => ?_
  constructor
  · rintro ⟨hnode, hleaf⟩
    exact (h.isLeaf_iff ht hp hne hnode).mp hleaf
  · intro hfile
    have hnode := (isFile_iff.mp hfile).1
    exact ⟨hnode, (h.isLeaf_iff ht hp hne hnode).mpr hfile⟩

end ReadsDirectories
end StateHolders.FileTree
