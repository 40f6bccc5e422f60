import Mathlib.Data.List.Induction
import StateHolders.Proofs.FileTree.Walking
import StateHolders.Proofs.Lookup

/-! Trees in which everything is in a directory. The empty tree is one, and no operation makes another of it.
In such a tree a walk gets to whatever is there, as long as it does not go up from where nothing is. -/

namespace StateHolders.FileTree

variable {t t' : FileTree} {p : Path} {place next : Place} {names ss : List String} {s : String}
  {node : Node}

def IsRooted (t : FileTree) : Prop := ∀ e ∈ t.nodes, t.node? e.1.dropLast = some .directory

instance (t : FileTree) : Decidable t.IsRooted :=
  inferInstanceAs (Decidable (∀ e ∈ t.nodes, t.node? e.1.dropLast = some .directory))

theorem isRooted_empty : empty.IsRooted := by
  simp [IsRooted, empty]

namespace IsRooted

theorem dropLast (ht : t.IsRooted) (h : t.node? place ≠ none) :
    t.node? place.dropLast = some .directory := by
  obtain ⟨node, hnode⟩ := Option.ne_none_iff_exists'.mp h
  unfold node? at hnode
  split at hnode
  · next hroot =>
    rw [hroot]
    rfl
  · exact ht _ (mem_of_lookup hnode)

theorem directory_of_append (ht : t.IsRooted) (hne : names ≠ []) (h : t.node? (place ++ names) ≠ none) :
    t.node? place = some .directory := by
  induction names using List.reverseRecOn with
  | nil => exact absurd rfl hne
  | append_singleton names name ih =>
    rw [← List.append_assoc] at h
    have hparent := ht.dropLast h
    rw [List.dropLast_concat] at hparent
    by_cases hnil : names = []
    · rwa [hnil, List.append_nil] at hparent
    · exact ih hnil (by rw [hparent]; exact nofun)

/-! What an operation puts into a tree is in a directory. -/

theorem put (ht : t.IsRooted) (hparent : t.node? place.dropLast = some .directory)
    (hnode : t.node? place = some .directory → node = .directory) : (t.put place node).IsRooted := by
  have hkept : ∀ q, t.node? q = some .directory → (t.put place node).node? q = some .directory := by
    intro q hq
    rw [node?_put]
    split_ifs with hroot hplace
    · rfl
    · rw [hnode (hplace ▸ hq)]
    · exact hq
  intro e he
  rcases List.mem_cons.mp he with rfl | he
  · exact hkept _ hparent
  · exact hkept _ (ht e (List.mem_of_mem_filter he))

theorem step (ht : t.IsRooted) (h : t.step place s = .ok next) :
    t.node? next.dropLast = some .directory := by
  obtain ⟨hdirectory, rfl⟩ := step_eq_ok h
  have hup : t.node? place.dropLast = some .directory :=
    ht.dropLast (by rw [hdirectory]; exact nofun)
  cases Path.Component.ofSegment? s with
  | none => exact hup
  | some component =>
    cases component with
    | root => exact hup
    | current => exact hup
    | parent =>
      have habove : t.node? place.dropLast ≠ none := by rw [hup]; exact nofun
      exact ht.dropLast habove
    | name name => simpa [Path.Component.follow] using hdirectory

theorem walk (ht : t.IsRooted) (hne : ss ≠ []) (h : t.walk place ss = .ok next) :
    t.node? next.dropLast = some .directory := by
  induction ss generalizing place with
  | nil => exact absurd rfl hne
  | cons s ss ih =>
    obtain ⟨mid, hmid, hrest⟩ := bind_eq_ok_iff.mp h
    by_cases hnil : ss = []
    · subst hnil
      obtain rfl : mid = next := Except.ok.inj hrest
      exact ht.step hmid
    · exact ih hnil hrest

theorem locate (ht : t.IsRooted) (h : t.locate p = .ok place) :
    t.node? place.dropLast = some .directory :=
  ht.walk p.segments_ne_nil (locate_eq_ok_iff.mp h).2

theorem makeDirectory (ht : t.IsRooted) (h : t.makeDirectory p = .ok t') : t'.IsRooted := by
  obtain ⟨place, hplace, -, rfl⟩ := makeDirectory_eq_ok h
  exact ht.put (ht.locate hplace) fun _ => rfl

theorem makeDirectories (ht : t.IsRooted) (ps : List Path) : (t.makeDirectories ps).1.IsRooted := by
  fun_induction FileTree.makeDirectories t ps with
  | case1 => exact ht
  | case2 p above t' hmake => exact ht.makeDirectory hmake
  | case3 p above _ t' e habove ih =>
    rw [habove] at ih
    exact ih
  | case4 p above _ t' habove t'' hmake ih =>
    rw [habove] at ih
    exact ih.makeDirectory hmake
  | case5 p above _ t' habove e _ ih =>
    rw [habove] at ih
    exact ih
  | case6 p above e => exact ht

theorem writeText {text : String} (ht : t.IsRooted) (h : t.writeText p text = .ok t') : t'.IsRooted := by
  obtain ⟨place, hplace, hnode, rfl⟩ := writeText_eq_ok h
  exact ht.put (ht.locate hplace) fun hdirectory => absurd hdirectory hnode

end IsRooted

/-! Walks in an earlier tree. Where a walk gets to in a tree, it has got to in an earlier one if something was
there, and if it goes up only where it could go up then. -/

theorem exists_eq_append_of_walk (hdown : ".." ∉ ss) (h : t.walk place ss = .ok next) :
    ∃ names, next = place ++ names := by
  induction ss generalizing place with
  | nil => exact ⟨[], by rw [Except.ok.inj h, List.append_nil]⟩
  | cons s ss ih =>
    rw [List.mem_cons, not_or] at hdown
    obtain ⟨mid, hmid, hrest⟩ := bind_eq_ok_iff.mp h
    obtain ⟨names, rfl⟩ := ih hdown.2 hrest
    obtain ⟨-, rfl⟩ := step_eq_ok hmid
    unfold Path.Component.ofSegment?
    split
    · exact ⟨names, rfl⟩
    · exact ⟨names, rfl⟩
    · exact absurd rfl hdown.1
    · exact ⟨s :: names, by simp [Path.Component.follow]⟩

theorem step_congr (h : t'.node? place = t.node? place) : t'.step place s = t.step place s := by
  unfold step
  rw [h]

theorem IsRooted.walk_of_walk (ht : t.IsRooted) (hdown : ".." ∉ ss) (h : t'.walk place ss = .ok next)
    (hnext : t.node? next = some .directory) : t.walk place ss = .ok next := by
  induction ss generalizing place with
  | nil => exact h
  | cons s ss ih =>
    obtain ⟨names, hnames⟩ := exists_eq_append_of_walk hdown h
    rw [List.mem_cons, not_or] at hdown
    obtain ⟨mid, hmid, hrest⟩ := bind_eq_ok_iff.mp h
    -- the walk starts above its end, so that it starts in a directory
    have hplace : t.node? place = some .directory := by
      by_cases hnil : names = []
      · rwa [hnames, hnil, List.append_nil] at hnext
      · exact ht.directory_of_append hnil (by rw [← hnames, hnext]; exact nofun)
    rw [step_congr ((step_eq_ok hmid).1.trans hplace.symm)] at hmid
    exact bind_eq_ok_iff.mpr ⟨mid, hmid, ih hdown.2 hrest⟩

def origin (t : FileTree) (p : Path) : Place := if p.isAbsolute then [] else t.workingDirectory

/-- Wherever the path goes up, it gets there and goes up from a directory. -/
def CanClimb (t : FileTree) (p : Path) : Prop :=
  ∀ n < p.segments.length, p.segments[n]? = some ".." →
    (t.walk (t.origin p) (p.segments.take (n + 1))).isOk = true

instance (t : FileTree) (p : Path) : Decidable (t.CanClimb p) := inferInstanceAs (Decidable (∀ n < _, _))

theorem exists_walk_of_isOk {x : Except FileError Place} (h : x.isOk = true) : ∃ place, x = .ok place := by
  cases x with
  | error e => cases h
  | ok place => exact ⟨place, rfl⟩

theorem canClimb_of_notMem (h : ".." ∉ p.segments) : t.CanClimb p :=
  fun _ _ hup => absurd (List.mem_of_getElem? hup) h

theorem canClimb_of_locate (h : t.locate p = .ok place) : t.CanClimb p := by
  intro n _ _
  obtain ⟨-, hwalk⟩ := locate_eq_ok_iff.mp h
  rw [← List.take_append_drop (n + 1) p.segments, walk_append, bind_eq_ok_iff] at hwalk
  obtain ⟨mid, hmid, -⟩ := hwalk
  rw [origin, hmid]
  rfl

theorem exists_last_up (h : ".." ∈ ss) : ∃ before after, ss = before ++ ".." :: after ∧ ".." ∉ after := by
  obtain ⟨before, after, heq, hnot⟩ := List.eq_append_cons_of_mem (List.mem_reverse.mpr h)
  refine ⟨after.reverse, before.reverse, ?_, by simpa using hnot⟩
  simpa using congrArg List.reverse heq

theorem trunk_isPrefix (p : Path) : p.trunk <+: p.segments := by
  unfold Path.trunk
  split
  · exact List.dropLast_prefix _
  · exact List.prefix_rfl

theorem IsRooted.walk_trunk (ht : t.IsRooted) {written : Place → Prop} (hkeeps : t.Keeps written t')
    (hp : t.CanClimb p) (h : t'.walk (t.origin p) p.trunk = .ok next)
    (hnext : t.node? next = some .directory) : t.walk (t.origin p) p.trunk = .ok next := by
  by_cases hup : ".." ∈ p.trunk
  · obtain ⟨before, after, htrunk, hdown⟩ := exists_last_up hup
    obtain ⟨rest, hrest⟩ := trunk_isPrefix p
    have hsegments : p.segments = (before ++ [".."]) ++ (after ++ rest) := by
      simp [← hrest, htrunk]
    have hclimb := hp before.length (by simp [hsegments]) (by simp [hsegments])
    have htake : p.segments.take (before.length + 1) = before ++ [".."] := by
      rw [hsegments, List.take_left' (by simp)]
    rw [htake] at hclimb
    obtain ⟨mid, hmid⟩ := exists_walk_of_isOk hclimb
    have hsplit : p.trunk = (before ++ [".."]) ++ after := by simp [htrunk]
    rw [hsplit, walk_append, bind_eq_ok_iff] at h ⊢
    obtain ⟨mid', hmid', hwalk⟩ := h
    obtain rfl : mid = mid' := Except.ok.inj ((hkeeps.walk hmid).symm.trans hmid')
    exact ⟨mid, hmid, ht.walk_of_walk hdown hwalk hnext⟩
  · exact ht.walk_of_walk hup h hnext

/-- Directories that are made on the way to a place make a difference only if nothing was there. -/
theorem IsRooted.locate_of_locate (ht : t.IsRooted) {written : Place → Prop}
    (hkeeps : t.Keeps written t') {root q : Path} (hroot : t.CanClimb root) (hq : q.Descends names)
    (hne : names ≠ []) (hlast : Path.EndsInName q.segments) (h : t'.locate (root.join q) = .ok place)
    (hnode : t.node? place ≠ none) : t.locate (root.join q) = .ok place := by
  rw [locate_join_eq_ok_iff hq hlast, ← origin] at h ⊢
  obtain ⟨husable, mid, hwalk, rfl, hpassable⟩ := h
  have horigin : t'.origin root = t.origin root := by rw [origin, origin, hkeeps.workingDirectory]
  rw [horigin] at hwalk
  refine ⟨husable, mid, ?_, rfl, fun n hn => ?_, hpassable.size⟩
  · exact ht.walk_trunk hkeeps hroot hwalk (ht.directory_of_append hne hnode)
  · have hrest : names.drop n ≠ [] := by simpa using hn
    refine ht.directory_of_append hrest ?_
    rwa [List.append_assoc, List.take_append_drop]

theorem IsRooted.readText_iff (ht : t.IsRooted) {written : Place → Prop} (hkeeps : t.Keeps written t')
    {root q : Path} (hroot : t.CanClimb root) (hq : q.Descends names)
    (hlast : Path.EndsInName q.segments)
    (hplace : ¬written (root.place t.workingDirectory ++ names)) {text : String} :
    t'.readText (root.join q) = .ok text ↔ t.readText (root.join q) = .ok text := by
  have hne : names ≠ [] := by
    rintro rfl
    exact Path.filterMap_ne_nil q.segments_ne_nil hlast (Path.descends_iff.mp hq).2
  constructor
  · intro h
    obtain ⟨place, hlocate, hnode⟩ := readText_eq_ok_iff.mp h
    have hnamed : place = root.place t.workingDirectory ++ names := by
      rw [locate_eq_ok hlocate, Path.place_join _ hq, hkeeps.workingDirectory]
    rw [hkeeps.file place (hnamed ▸ hplace)] at hnode
    refine readText_eq_ok_iff.mpr ⟨place, ?_, hnode⟩
    exact ht.locate_of_locate hkeeps hroot hq hne hlast hlocate (by rw [hnode]; exact nofun)
  · exact hkeeps.readText (by rwa [Path.place_join _ hq])

end StateHolders.FileTree
