import StateHolders.Proofs.FileTree

/-! Walks down through names. Whether a walk arrives depends on the names alone, and not on the separators
and dots between them, as long as the last segment is a name. -/

namespace StateHolders

namespace Path

def IsUsable (p : Path) : Prop :=
  '\x00' ∉ p.text.toList ∧ p.text ≠ "" ∧ p.text.utf8ByteSize < 4096

def EndsInName (ss : List String) : Prop := ∀ s ∈ ss.getLast?, Component.ofSegment? s ≠ none

theorem filterMap_ne_nil {ss : List String} (hne : ss ≠ []) (hlast : EndsInName ss) :
    ss.filterMap Component.ofSegment? ≠ [] := by
  obtain ⟨front, s, rfl⟩ := List.eq_nil_or_concat ss |>.resolve_left hne
  have hs := hlast s (by simp)
  intro hnil
  rw [List.filterMap_eq_nil_iff] at hnil
  exact hs (hnil s (by simp))

theorem ofSegment?_eq_none_iff {s : String} :
    Component.ofSegment? s = none ↔ s = "" ∨ s = "." := by
  unfold Component.ofSegment?
  split <;> simp_all

theorem ofSegment?_eq_name_iff {s name : String} :
    Component.ofSegment? s = some (.name name) ↔ s = name ∧ s ≠ "" ∧ s ≠ "." ∧ s ≠ ".." := by
  unfold Component.ofSegment?
  split <;> simp_all

end Path

namespace FileTree

variable {t : FileTree} {place next : Place} {s : String} {ss names : List String}

theorem walk_append (t : FileTree) (place : Place) (ss ss' : List String) :
    t.walk place (ss ++ ss') = t.walk place ss >>= fun next => t.walk next ss' := by
  induction ss generalizing place with
  | nil => rfl
  | cons s ss ih =>
    rw [List.cons_append, walk, walk]
    cases t.step place s with
    | error e => rfl
    | ok mid => exact ih mid

theorem step_eq_ok_iff_of_none (hs : Path.Component.ofSegment? s = none) :
    t.step place s = .ok next ↔ t.node? place = some .directory ∧ next = place := by
  constructor
  · intro h
    obtain ⟨hdirectory, hnext⟩ := step_eq_ok h
    rw [hs] at hnext
    exact ⟨hdirectory, hnext⟩
  · rintro ⟨hdirectory, rfl⟩
    unfold step
    rcases Path.ofSegment?_eq_none_iff.mp hs with rfl | rfl <;> simp [hdirectory]

theorem step_eq_ok_iff_of_name {name : String}
    (hs : Path.Component.ofSegment? s = some (.name name)) : t.step place s = .ok next ↔
      t.node? place = some .directory ∧ name.utf8ByteSize ≤ 255 ∧ next = place ++ [name] := by
  obtain ⟨rfl, hempty, hdot, hup⟩ := Path.ofSegment?_eq_name_iff.mp hs
  have hmove : t.node? place = some .directory → t.step place s =
      if 255 < s.utf8ByteSize then .error .nameTooLong else .ok (place ++ [s]) := by
    intro hdirectory
    simp [step, hdirectory, hempty, hdot, hup]
  constructor
  · intro h
    obtain ⟨hdirectory, hnext⟩ := step_eq_ok h
    rw [hmove hdirectory] at h
    split at h
    · cases h
    · next hsize =>
      cases h
      exact ⟨hdirectory, by omega, rfl⟩
  · rintro ⟨hdirectory, hsize, rfl⟩
    rw [hmove hdirectory, if_neg (by omega)]

structure Passable (t : FileTree) (place : Place) (names : List String) : Prop where
  directory : ∀ n < names.length, t.node? (place ++ names.take n) = some .directory
  size : ∀ name ∈ names, name.utf8ByteSize ≤ 255

theorem passable_cons_iff {name : String} : t.Passable place (name :: names) ↔
    t.node? place = some .directory ∧ name.utf8ByteSize ≤ 255 ∧
      t.Passable (place ++ [name]) names := by
  constructor
  · rintro ⟨hdirectory, hsize⟩
    rw [List.forall_mem_cons] at hsize
    refine ⟨by simpa using hdirectory 0 (by simp), hsize.1, fun n hn => ?_, hsize.2⟩
    simpa using hdirectory (n + 1) (by simpa using hn)
  · rintro ⟨hplace, hname, hdirectory, hsize⟩
    refine ⟨fun n hn => ?_, List.forall_mem_cons.mpr ⟨hname, hsize⟩⟩
    cases n with
    | zero => simpa using hplace
    | succ n => simpa using hdirectory n (by simpa using hn)

/-- A walk that ends in a name arrives where the names lead, if it can pass. -/
theorem walk_eq_ok_iff (hss : ss.filterMap Path.Component.ofSegment? = names.map .name)
    (hlast : Path.EndsInName ss) :
    t.walk place ss = .ok next ↔ next = place ++ names ∧ t.Passable place names := by
  induction ss generalizing place names with
  | nil =>
    obtain rfl : names = [] := by simpa using hss.symm
    have hpassable : t.Passable place [] := ⟨by simp, by simp⟩
    rw [List.append_nil, and_iff_left hpassable, walk, Except.ok.injEq, eq_comm]
  | cons s ss ih =>
    have hrest : Path.EndsInName ss := by
      intro s' hs'
      refine hlast s' ?_
      obtain ⟨front, hfront⟩ := List.getLast?_eq_some_iff.mp hs'
      rw [hfront, ← List.cons_append]
      exact List.getLast?_concat
    rw [walk, bind_eq_ok_iff]
    rw [List.filterMap_cons] at hss
    split at hss
    · next hs =>
      -- a name follows, and the walk goes on to it from a directory only
      have hne : ss ≠ [] := by
        rintro rfl
        exact hlast s rfl hs
      obtain ⟨name, names, rfl⟩ : ∃ name names', names = name :: names' := by
        refine List.exists_cons_of_ne_nil ?_
        rintro rfl
        exact Path.filterMap_ne_nil hne hrest hss
      constructor
      · rintro ⟨mid, hstep, hwalk⟩
        obtain ⟨-, rfl⟩ := (step_eq_ok_iff_of_none hs).mp hstep
        exact (ih hss hrest).mp hwalk
      · rintro ⟨hnext, hpassable⟩
        have hdirectory := (passable_cons_iff.mp hpassable).1
        exact ⟨place, (step_eq_ok_iff_of_none hs).mpr ⟨hdirectory, rfl⟩,
          (ih hss hrest).mpr ⟨hnext, hpassable⟩⟩
    · next component hs =>
      obtain ⟨name, names, rfl, rfl, hnames⟩ := List.map_eq_cons_iff.mp hss.symm
      rw [passable_cons_iff]
      constructor
      · rintro ⟨mid, hstep, hwalk⟩
        obtain ⟨hdirectory, hsize, rfl⟩ := (step_eq_ok_iff_of_name hs).mp hstep
        obtain ⟨rfl, hpassable⟩ := (ih hnames.symm hrest).mp hwalk
        exact ⟨by simp, hdirectory, hsize, hpassable⟩
      · rintro ⟨rfl, hdirectory, hsize, hpassable⟩
        exact ⟨place ++ [name], (step_eq_ok_iff_of_name hs).mpr ⟨hdirectory, hsize, rfl⟩,
          (ih hnames.symm hrest).mpr ⟨by simp, hpassable⟩⟩

theorem locate_eq_ok_iff {p : Path} : t.locate p = .ok place ↔ p.IsUsable ∧
    t.walk (if p.isAbsolute then [] else t.workingDirectory) p.segments = .ok place := by
  unfold locate
  split
  · next hnul => exact iff_of_false nofun fun h => h.1.1 hnul
  · next hnul =>
    split
    · next hempty => exact iff_of_false nofun fun h => h.1.2.1 hempty
    · next hempty =>
      split
      · next hlong => exact iff_of_false nofun fun h => by have := h.1.2.2; omega
      · next hlong => exact (and_iff_right ⟨hnul, hempty, by omega⟩).symm

theorem locate_join_eq_ok_iff {root q : Path} (hq : q.Descends names)
    (hlast : Path.EndsInName q.segments) : t.locate (root.join q) = .ok place ↔
      (root.join q).IsUsable ∧
      ∃ mid, t.walk (if root.isAbsolute then [] else t.workingDirectory) root.trunk = .ok mid ∧
        place = mid ++ names ∧ t.Passable mid names := by
  rw [locate_eq_ok_iff, hq.isAbsolute_join, Path.segments_join hq.isAbsolute_eq_false, walk_append,
    bind_eq_ok_iff]
  simp only [walk_eq_ok_iff (Path.descends_iff.mp hq).2 hlast]

/-- A path that goes through the same names as another one arrives with it, if it arrives in any tree. -/
theorem locate_respelled {t' : FileTree} {root q q' : Path} {place' : Place} (hq : q.Descends names)
    (hlast : Path.EndsInName q.segments) (hq' : q'.Descends names)
    (hlast' : Path.EndsInName q'.segments) (h : t.locate (root.join q) = .ok place)
    (h' : t'.locate (root.join q') = .ok place') : t.locate (root.join q') = .ok place := by
  rw [locate_join_eq_ok_iff hq hlast] at h
  rw [locate_join_eq_ok_iff hq' hlast'] at h' ⊢
  exact ⟨h'.1, h.2⟩

end FileTree
end StateHolders
