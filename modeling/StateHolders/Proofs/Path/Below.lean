import StateHolders.Proofs.FileTree

/-! Paths below a root, and the directories above a path. A path that is joined to a root is below it if it
goes down through names; the directories above it are then below the root as well, or lead to it. -/

namespace StateHolders.Path

variable {p q root : Path} {names : List String}

/-- The path goes on from `root` through at least one name. -/
def IsBelow (p root : Path) : Prop :=
  ∃ names, names ≠ [] ∧ p.components = root.components ++ names.map .name

theorem components_join (hq : q.Descends names) :
    (p.join q).components = p.components ++ names.map .name := by
  have hrel := hq.isAbsolute_eq_false
  by_cases hempty : p.text = ""
  · have hjoin : p.join q = q := by simp [join, hrel, hempty]
    have hp : p.components = [] := by
      obtain rfl : p = ⟨""⟩ := congrArg Path.mk hempty
      rfl
    rw [hjoin, hp]
    exact hq
  · rw [components_eq, components_eq, start_join hempty hrel, steps_join hrel,
      (descends_iff.mp hq).2, List.append_assoc]

theorem isBelow_join (hq : q.Descends names) (hne : names ≠ []) : (root.join q).IsBelow root :=
  ⟨names, hne, components_join hq⟩

/-! Places. -/

theorem root_mem_components_iff : .root ∈ p.components ↔ p.isAbsolute = true := by
  have hsteps : Component.root ∉ p.steps := by
    intro hmem
    obtain ⟨s, -, hs⟩ := List.mem_filterMap.mp hmem
    unfold Component.ofSegment? at hs
    split at hs <;> cases hs
  rw [components_eq, List.mem_append, or_iff_left hsteps, start]
  split_ifs with habs hcurrent <;> simp [habs]

theorem not_isBelow_of_isAbsolute (hp : p.isAbsolute = true) (hroot : root.isAbsolute = false) :
    ¬p.IsBelow root := by
  rintro ⟨names, -, h⟩
  rw [← root_mem_components_iff, h] at hp
  have hmem : .root ∈ root.components := by simpa using hp
  rw [root_mem_components_iff, hroot] at hmem
  cases hmem

theorem place_eq (workingDirectory : Place) (p : Path) :
    p.place workingDirectory = p.components.foldl Component.follow
      (if p.isAbsolute then [] else workingDirectory) := by
  have hstart : ∀ place, p.start.foldl Component.follow place = place := by
    intro place
    unfold start
    split_ifs <;> rfl
  rw [components_eq, List.foldl_append, hstart, place]

theorem place_of_components_eq (h : p.components = root.components ++ names.map .name)
    (workingDirectory : Place) :
    p.place workingDirectory = root.place workingDirectory ++ names := by
  have habs : p.isAbsolute = root.isAbsolute := by
    rw [Bool.eq_iff_iff, ← root_mem_components_iff, ← root_mem_components_iff, h]
    simp
  rw [place_eq, place_eq, h, List.foldl_append, foldl_follow_names, habs]

/-! Directories above a path. Each of them is made of segments that the path begins with. -/

theorem segments_ofSegments {ss : List String} (hss : ∀ s ∈ ss, '/' ∉ s.toList) (hne : ss ≠ [])
    (hroot : ss ≠ [""]) : (ofSegments ss).segments = ss := by
  have hpieces : ∀ piece ∈ ss.map String.toList, '/' ∉ piece := List.forall_mem_map.mpr hss
  have hslash : "/".toList = ['/'] := rfl
  rw [ofSegments, if_neg hroot, segments, String.toList_intercalate, hslash,
    List.splitOn_intercalate '/' hpieces (by simpa using hne), List.map_map]
  simp

theorem isAbsolute_iff_segments :
    p.isAbsolute = true ↔ p.segments.head? = some "" ∧ p.segments ≠ [""] := by
  unfold isAbsolute segments
  cases p.text.toList with
  | nil => simp
  | cons c s =>
    obtain ⟨first, rest, hs⟩ := List.exists_cons_of_ne_nil (List.splitOn_ne_nil '/' s)
    by_cases hc : c = '/' <;> simp [List.splitOn_cons_eq_if_modifyHead, hc, hs]

theorem components_isPrefix (hq : q.segments ≠ [""]) (h : q.segments <+: p.segments) :
    q.components <+: p.components := by
  obtain ⟨first, rest, hfirst⟩ := List.exists_cons_of_ne_nil q.segments_ne_nil
  obtain ⟨more, hmore⟩ := h
  have hhead : p.segments.head? = q.segments.head? := by
    rw [← hmore, hfirst]
    rfl
  have hp : p.segments ≠ [""] := by
    intro hempty
    rw [← hmore, hfirst, List.cons_append, List.cons.injEq, List.append_eq_nil_iff] at hempty
    obtain ⟨rfl, rfl, -⟩ := hempty
    exact hq hfirst
  have habs : p.isAbsolute = q.isAbsolute := by
    rw [Bool.eq_iff_iff, isAbsolute_iff_segments, isAbsolute_iff_segments, hhead]
    simp [hp, hq]
  have hstart : p.start = q.start := by rw [start, start, habs, hhead]
  rw [components_eq, components_eq, hstart, List.prefix_append_right_inj]
  exact List.IsPrefix.filterMap _ ⟨more, hmore⟩

theorem exists_of_mem_ancestors {ss : List String} (h : q ∈ ancestors ss) :
    ∃ above, above <+: ss.reverse ∧ above ≠ [] ∧ above ≠ [""] ∧ q = ofSegments above := by
  induction ss with
  | nil => cases h
  | cons s rest ih =>
    have hrest : q ∈ ancestors rest → ∃ above, above <+: (s :: rest).reverse ∧ above ≠ [] ∧
        above ≠ [""] ∧ q = ofSegments above := by
      intro hq
      obtain ⟨above, habove, hq⟩ := ih hq
      refine ⟨above, ?_, hq⟩
      rw [List.reverse_cons]
      exact habove.trans (List.prefix_append _ _)
    unfold ancestors at h
    split at h
    · exact hrest h
    · next hs =>
      have hsegment : s ≠ "" := fun hempty => hs (by simp [hempty])
      rcases List.mem_cons.mp h with rfl | hq
      · refine ⟨_, List.prefix_rfl, by simp, fun hempty => hsegment ?_, rfl⟩
        simpa using congrArg List.getLast? hempty
      · exact hrest hq

theorem components_isPrefix_of_mem_parents (h : q ∈ p.parents) : q.components <+: p.components := by
  obtain ⟨above, habove, hne, hroot, rfl⟩ := exists_of_mem_ancestors (List.mem_of_mem_drop h)
  rw [List.reverse_reverse] at habove
  have hslash : ∀ s ∈ above, '/' ∉ s.toList := by
    intro s hs hmem
    obtain ⟨piece, hpiece, rfl⟩ := List.mem_map.mp (habove.subset hs)
    rw [String.toList_ofList] at hmem
    exact (Text.mem_and_ne_of_mem_splitOn hpiece _ hmem).2 rfl
  have hsegments := segments_ofSegments hslash hne hroot
  refine components_isPrefix ?_ ?_ <;> rwa [hsegments]

theorem IsBelow.parent (h : p.IsBelow root) (hq : q ∈ p.parents) :
    q.IsBelow root ∨ q.components <+: root.components := by
  obtain ⟨names, -, hp⟩ := h
  have hprefix := components_isPrefix_of_mem_parents hq
  rw [hp] at hprefix
  rcases List.prefix_or_prefix_of_prefix hprefix (List.prefix_append _ _) with habove | hroot
  · exact .inr habove
  · obtain ⟨more, hmore⟩ := hroot
    rw [← hmore, List.prefix_append_right_inj, List.prefix_map_iff] at hprefix
    obtain ⟨names', -, rfl⟩ := hprefix
    by_cases hnil : names' = []
    · rw [hnil, List.map_nil, List.append_nil] at hmore
      exact .inr (hmore ▸ List.prefix_rfl)
    · exact .inl ⟨names', hnil, hmore.symm⟩

theorem IsBelow.place (h : p.IsBelow root) (workingDirectory : Place) : ∃ names, names ≠ [] ∧
    p.place workingDirectory = root.place workingDirectory ++ names := by
  obtain ⟨names, hne, hp⟩ := h
  exact ⟨names, hne, place_of_components_eq hp workingDirectory⟩

/-! Joining an absolute path, and going up. -/

theorem below_cons (p : Path) (s : String) (ss : List String) :
    p.below (s :: ss) = (p.join ⟨s⟩).below ss := rfl

theorem join_of_isAbsolute (hq : q.isAbsolute = true) (p : Path) : p.join q = q := if_pos hq

theorem isAbsolute_join_of_left (hp : p.isAbsolute = true) (q : Path) :
    (p.join q).isAbsolute = true := by
  cases hq : q.isAbsolute with
  | true => rw [join_of_isAbsolute hq, hq]
  | false =>
    have hne : p.text ≠ "" := fun hempty => by simp [isAbsolute, hempty] at hp
    rw [isAbsolute_join hne hq, hp]

theorem isAbsolute_below {ss : List String}
    (h : p.isAbsolute = true ∨ ∃ s ∈ ss, isAbsolute ⟨s⟩ = true) : (p.below ss).isAbsolute = true := by
  induction ss generalizing p with
  | nil => simpa [below] using h
  | cons s ss ih =>
    rw [below_cons]
    apply ih
    rcases h with hp | ⟨s', hmem, hs'⟩
    · exact .inl (isAbsolute_join_of_left hp ⟨s⟩)
    · rcases List.mem_cons.mp hmem with rfl | hmem
      · rw [join_of_isAbsolute hs']
        exact .inl hs'
      · exact .inr ⟨s', hmem, hs'⟩

def IsDownward (p : Path) : Prop := .parent ∉ p.components

theorem isDownward_iff : p.IsDownward ↔ .parent ∉ p.steps := by
  have hstart : .parent ∉ p.start := by
    unfold start
    split_ifs <;> simp
  rw [IsDownward, components_eq, List.mem_append, or_iff_right hstart]

theorem Descends.isDownward {names : List String} (h : p.Descends names) : p.IsDownward := by
  rw [IsDownward, h]
  simp

theorem IsDownward.join (hp : p.IsDownward) (hq : q.IsDownward) : (p.join q).IsDownward := by
  cases habs : q.isAbsolute with
  | true =>
    rw [join_of_isAbsolute habs]
    exact hq
  | false =>
    rw [isDownward_iff, steps_join habs, List.mem_append, not_or]
    exact ⟨isDownward_iff.mp hp, isDownward_iff.mp hq⟩

theorem IsDownward.below {ss : List String} (hp : p.IsDownward)
    (hss : ∀ s ∈ ss, IsDownward ⟨s⟩) : (p.below ss).IsDownward := by
  induction ss generalizing p with
  | nil => exact hp
  | cons s ss ih =>
    rw [List.forall_mem_cons] at hss
    exact ih (hp.join hss.1) hss.2

theorem isDownward_of_dots {s : String} (h : ['.', '.'] ∉ s.toList.splitOn '/') :
    IsDownward ⟨s⟩ := by
  rw [isDownward_iff]
  intro hmem
  obtain ⟨segment, hsegment, hparent⟩ := List.mem_filterMap.mp hmem
  obtain ⟨piece, hpiece, rfl⟩ := List.mem_map.mp hsegment
  have hdots : String.ofList piece = ".." := by
    unfold Component.ofSegment? at hparent
    split at hparent
    · cases hparent
    · cases hparent
    · assumption
    · cases hparent
  obtain rfl : piece = ['.', '.'] := by simpa using congrArg String.toList hdots
  exact h hpiece

end StateHolders.Path
