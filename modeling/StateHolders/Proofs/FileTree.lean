import StateHolders.FileTree
import StateHolders.Proofs.Path

/-! File trees under their operations. A path is followed to a place that depends on nothing in the
tree; the tree only decides whether one gets there. Directories that are there stay, and no operation
changes a file but the one that is written. -/

namespace StateHolders

namespace Path

theorem foldl_follow_names (place : Place) (names : List String) :
    (names.map Component.name).foldl Component.follow place = place ++ names := by
  induction names generalizing place with
  | nil => simp
  | cons s names ih => simp [Component.follow, ih]

theorem place_join {p q : Path} (workingDirectory : Place) {names : List String}
    (hq : q.Descends names) :
    (p.join q).place workingDirectory = p.place workingDirectory ++ names := by
  rw [place, place, steps_join hq.isAbsolute_eq_false, List.foldl_append, hq.isAbsolute_join,
    (descends_iff.mp hq).2, foldl_follow_names]

end Path

namespace FileTree

variable {t t' t'' : FileTree} {p : Path}

theorem bind_eq_ok_iff {α β : Type} {x : Except FileError α} {k : α → Except FileError β} {b : β} :
    (x >>= k) = .ok b ↔ ∃ a, x = .ok a ∧ k a = .ok b := by
  cases x with
  | error e => exact iff_of_false nofun nofun
  | ok a => simp [bind, Except.bind]

theorem lookup_filter_ne {place q : Place} (h : q ≠ place) (nodes : List (Place × Node)) :
    (nodes.filter (·.1 ≠ place)).lookup q = nodes.lookup q := by
  induction nodes with
  | nil => rfl
  | cons entry nodes ih =>
    obtain ⟨place', node⟩ := entry
    by_cases hplace : place' = place
    · have hne : (q == place') = false := by simpa [hplace] using h
      rw [List.filter_cons_of_neg (by simp [hplace]), ih, List.lookup_cons, hne]
    · rw [List.filter_cons_of_pos (by simp [hplace]), List.lookup_cons, List.lookup_cons, ih]

theorem node?_put (t : FileTree) (place : Place) (node : Node) (q : Place) :
    (t.put place node).node? q =
      if q = [] then some .directory else if q = place then some node else t.node? q := by
  unfold put node?
  by_cases hroot : q = []
  · simp [hroot]
  · by_cases hplace : q = place
    · simp [hplace]
    · have hne : (q == place) = false := by simpa using hplace
      rw [if_neg hroot, if_neg hroot, if_neg hplace, List.lookup_cons, hne,
        lookup_filter_ne hplace, if_neg hroot]

theorem step_eq_ok {place next : Place} {s : String} (h : t.step place s = .ok next) :
    t.node? place = some .directory ∧
      next = (Path.Component.ofSegment? s).elim place (Path.Component.follow place) := by
  unfold step at h
  split at h
  · cases h
  · cases h
  · next hdir =>
    refine ⟨hdir, ?_⟩
    unfold Path.Component.ofSegment?
    split at h
    · next hstay =>
      cases h
      rcases Bool.or_eq_true_iff.mp hstay with hs | hs <;> simp [of_decide_eq_true hs]
    · next hmove =>
      have hempty : s ≠ "" ∧ s ≠ "." := by simpa using hmove
      split at h
      · next hup =>
        cases h
        simp [hup, Path.Component.follow]
      · split at h
        · cases h
        · cases h
          simp [hempty, Path.Component.follow]

theorem walk_eq_ok {place next : Place} {ss : List String} (h : t.walk place ss = .ok next) :
    next = (ss.filterMap Path.Component.ofSegment?).foldl Path.Component.follow place := by
  induction ss generalizing place with
  | nil =>
    cases h
    rfl
  | cons s ss ih =>
    obtain ⟨mid, hs, hss⟩ := bind_eq_ok_iff.mp h
    rw [ih hss, (step_eq_ok hs).2, List.filterMap_cons]
    cases Path.Component.ofSegment? s <;> rfl

theorem locate_eq_ok {place : Place} (h : t.locate p = .ok place) :
    place = p.place t.workingDirectory := by
  unfold locate at h
  split_ifs at h <;> simp_all [Path.place, Path.steps, walk_eq_ok h]

/-! What stays. Wherever one gets to in a tree, one gets to while its directories stay. -/

/-- From `t` to `t'` directories stay, and so do files at places that are not `written`. -/
structure Keeps (written : Place → Prop) (t t' : FileTree) : Prop where
  workingDirectory : t'.workingDirectory = t.workingDirectory
  directory : ∀ place, t.node? place = some .directory → t'.node? place = some .directory
  file : ∀ place, ¬written place → ∀ c,
    t'.node? place = some (.file c) ↔ t.node? place = some (.file c)

namespace Keeps

variable {written written' : Place → Prop}

theorem refl (t : FileTree) : Keeps written t t := ⟨rfl, fun _ h => h, fun _ _ _ => Iff.rfl⟩

theorem trans (h : Keeps written t t') (h' : Keeps written t' t'') : Keeps written t t'' where
  workingDirectory := h'.workingDirectory.trans h.workingDirectory
  directory place hdir := h'.directory place (h.directory place hdir)
  file place hplace c := (h'.file place hplace c).trans (h.file place hplace c)

theorem mono (h : Keeps written t t') (hw : ∀ place, written place → written' place) :
    Keeps written' t t' where
  workingDirectory := h.workingDirectory
  directory := h.directory
  file place hplace := h.file place fun hwritten => hplace (hw place hwritten)

theorem step (h : Keeps written t t') {place next : Place} {s : String}
    (hs : t.step place s = .ok next) : t'.step place s = .ok next := by
  have hdir := (step_eq_ok hs).1
  unfold FileTree.step at hs ⊢
  rw [hdir] at hs
  rw [h.directory place hdir]
  exact hs

theorem walk (h : Keeps written t t') {place next : Place} {ss : List String}
    (hs : t.walk place ss = .ok next) : t'.walk place ss = .ok next := by
  induction ss generalizing place with
  | nil => exact hs
  | cons s ss ih =>
    obtain ⟨mid, hmid, hrest⟩ := bind_eq_ok_iff.mp hs
    exact bind_eq_ok_iff.mpr ⟨mid, h.step hmid, ih hrest⟩

theorem locate (h : Keeps written t t') {place : Place} (hp : t.locate p = .ok place) :
    t'.locate p = .ok place := by
  unfold FileTree.locate at hp ⊢
  rw [h.workingDirectory]
  split_ifs at hp ⊢
  all_goals exact h.walk hp

end Keeps

/-! One lemma for each operation: what it needs, and what it leaves. -/

theorem readText_eq_ok_iff {text : String} :
    t.readText p = .ok text ↔
      ∃ place, t.locate p = .ok place ∧ t.node? place = some (.file (.text text)) := by
  unfold readText
  rw [bind_eq_ok_iff]
  refine exists_congr fun place => and_congr_right fun _ => ?_
  split <;> simp_all

theorem writeText_eq_ok {text : String} (h : t.writeText p text = .ok t') :
    ∃ place, t.locate p = .ok place ∧ t.node? place ≠ some .directory ∧
      t' = t.put place (.file (.text text)) := by
  obtain ⟨place, hplace, h⟩ := bind_eq_ok_iff.mp h
  split at h
  · cases h
  · next hnode => exact ⟨place, hplace, hnode, (Except.ok.inj h).symm⟩

theorem makeDirectory_eq_ok (h : t.makeDirectory p = .ok t') :
    ∃ place, t.locate p = .ok place ∧ t.node? place = none ∧ t' = t.put place .directory := by
  obtain ⟨place, hplace, h⟩ := bind_eq_ok_iff.mp h
  split at h
  · cases h
  · next hnode => exact ⟨place, hplace, hnode, (Except.ok.inj h).symm⟩

theorem keeps_makeDirectory (h : t.makeDirectory p = .ok t') : Keeps (fun _ => False) t t' := by
  obtain ⟨place, -, hnone, rfl⟩ := makeDirectory_eq_ok h
  refine ⟨rfl, fun q hq => ?_, fun q _ c => ?_⟩
  · rw [node?_put]
    split_ifs with hroot hplace
    · rfl
    · rfl
    · exact hq
  · rw [node?_put]
    split_ifs with hroot hplace
    · simp [hroot, node?]
    · simp [hplace, hnone]
    · rfl

theorem keeps_makeDirectories (t : FileTree) (ps : List Path) :
    Keeps (fun _ => False) t (t.makeDirectories ps).1 := by
  fun_induction makeDirectories t ps with
  | case1 => exact .refl t
  | case2 p above t' hmake => exact keeps_makeDirectory hmake
  | case3 p above _ t' e habove ih =>
    rw [habove] at ih
    exact ih
  | case4 p above _ t' habove t'' hmake ih =>
    rw [habove] at ih
    exact ih.trans (keeps_makeDirectory hmake)
  | case5 p above _ t' habove e _ ih =>
    rw [habove] at ih
    exact ih
  | case6 p above e => exact .refl t

theorem keeps_writeText {text : String} (h : t.writeText p text = .ok t') :
    Keeps (· = p.place t.workingDirectory) t t' := by
  obtain ⟨place, hplace, hnode, rfl⟩ := writeText_eq_ok h
  rw [← locate_eq_ok hplace]
  refine ⟨rfl, fun q hq => ?_, fun q hne c => ?_⟩
  · rw [node?_put]
    split_ifs with hroot hq'
    · rfl
    · exact absurd (hq' ▸ hq) hnode
    · exact hq
  · rw [node?_put, if_neg hne]
    split_ifs with hroot
    · simp [hroot, node?]
    · rfl

theorem readText_writeText {text : String} (h : t.writeText p text = .ok t') :
    t'.readText p = .ok text := by
  have hkeeps := keeps_writeText h
  obtain ⟨place, hplace, hnode, rfl⟩ := writeText_eq_ok h
  refine readText_eq_ok_iff.mpr ⟨place, hkeeps.locate hplace, ?_⟩
  have hroot : place ≠ [] := by
    rintro rfl
    exact hnode rfl
  rw [node?_put, if_neg hroot, if_pos rfl]

theorem Keeps.readText {written : Place → Prop} (h : Keeps written t t')
    (hp : ¬written (p.place t.workingDirectory)) {text : String} (ht : t.readText p = .ok text) :
    t'.readText p = .ok text := by
  obtain ⟨place, hplace, hnode⟩ := readText_eq_ok_iff.mp ht
  rw [← locate_eq_ok hplace] at hp
  exact readText_eq_ok_iff.mpr ⟨place, h.locate hplace, (h.file place hp _).mpr hnode⟩

end FileTree
end StateHolders
