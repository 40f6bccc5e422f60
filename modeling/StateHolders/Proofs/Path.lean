import Mathlib.Data.List.Basic
import Mathlib.Tactic.SplitIfs
import StateHolders.Path

/-! Where paths lead. Besides its steps a path tells where it starts; joining a relative path appends
its steps, and a path of names alone leads below wherever it is followed from. -/

namespace StateHolders

namespace Text

theorem mem_and_ne_of_mem_splitOn {sep : Char} {s piece : List Char}
    (hpiece : piece ∈ s.splitOn sep) : ∀ c ∈ piece, c ∈ s ∧ c ≠ sep := by
  induction s generalizing piece with
  | nil =>
    obtain rfl : piece = [] := by simpa using hpiece
    simp
  | cons d s ih =>
    rw [List.splitOn_cons_eq_if_modifyHead] at hpiece
    split at hpiece
    · rcases List.mem_cons.mp hpiece with rfl | hmem
      · simp
      · exact fun c hc => ⟨List.mem_cons_of_mem _ (ih hmem c hc).1, (ih hmem c hc).2⟩
    · next hd =>
      obtain ⟨first, rest, hs⟩ := List.exists_cons_of_ne_nil (List.splitOn_ne_nil sep s)
      rw [hs] at ih hpiece
      rw [List.modifyHead_cons, List.mem_cons] at hpiece
      rcases hpiece with rfl | hmem
      · have hfirst := ih List.mem_cons_self
        rw [List.forall_mem_cons]
        exact ⟨⟨List.mem_cons_self, by simpa using hd⟩,
          fun c hc => ⟨List.mem_cons_of_mem _ (hfirst c hc).1, (hfirst c hc).2⟩⟩
      · have hpiece := ih (List.mem_cons_of_mem _ hmem)
        exact fun c hc => ⟨List.mem_cons_of_mem _ (hpiece c hc).1, (hpiece c hc).2⟩

end Text

namespace Path

def start (p : Path) : List Component :=
  if p.isAbsolute then [.root] else if p.segments.head? = some "." then [.current] else []

theorem segments_ne_nil (p : Path) : p.segments ≠ [] := by
  simp [segments]

theorem isAbsolute_iff {p : Path} : p.isAbsolute = true ↔ p.text.toList.head? = some '/' := by
  simp [isAbsolute]

theorem head?_segments_of_isAbsolute {p : Path} (h : p.isAbsolute = true) :
    p.segments.head? = some "" := by
  obtain ⟨s, hs⟩ := List.head?_eq_some_iff.mp (isAbsolute_iff.mp h)
  simp [segments, hs, List.splitOn_cons_eq_if_modifyHead]

theorem components_eq (p : Path) : p.components = p.start ++ p.steps := by
  have habs : p.segments.head? ≠ some "" → p.isAbsolute = false := by
    intro h
    rw [← Bool.not_eq_true]
    exact fun habs => h (head?_segments_of_isAbsolute habs)
  unfold components start steps
  split
  · next hp => exact absurd hp p.segments_ne_nil
  · next rest hp => simp [hp, Component.ofSegment?]
  · next rest hp =>
    have hrel := habs (by simp [hp])
    simp [hp, hrel, Component.ofSegment?]
  · next segments hempty hdot =>
    have hhead : ∀ s, p.segments.head? = some s → ∃ rest, p.segments = s :: rest := fun s =>
      List.head?_eq_some_iff.mp
    have hrel : p.isAbsolute = false := habs fun h => (hhead "" h).elim hempty
    have hcurrent : p.segments.head? ≠ some "." := fun h => (hhead "." h).elim hdot
    simp [hrel, hcurrent]

/-! Joining. A path that ends in a separator, or is empty, takes no other one before what follows. -/

def trunk (p : Path) : List String :=
  if p.text = "" || p.text.toList.getLast? = some '/' then p.segments.dropLast else p.segments

theorem segments_join {p q : Path} (hq : q.isAbsolute = false) :
    (p.join q).segments = p.trunk ++ q.segments := by
  unfold join trunk
  rw [if_neg (by simp [hq])]
  split
  · next h =>
    rw [Bool.or_eq_true, decide_eq_true_eq, decide_eq_true_eq] at h
    rcases h with hempty | hslash
    · simp [segments, hempty]
    · obtain ⟨s, hs⟩ := List.getLast?_eq_some_iff.mp hslash
      simp [segments, hs, List.splitOn_append_cons_self]
  · simp [segments, List.splitOn_append_cons_self]

theorem filterMap_trunk (p : Path) : p.trunk.filterMap Component.ofSegment? = p.steps := by
  unfold trunk steps
  split
  · next h =>
    rw [Bool.or_eq_true, decide_eq_true_eq, decide_eq_true_eq] at h
    rcases h with hempty | hslash
    · simp [segments, hempty, Component.ofSegment?]
    · obtain ⟨s, hs⟩ := List.getLast?_eq_some_iff.mp hslash
      simp [segments, hs, List.splitOn_append_cons_self, Component.ofSegment?]
  · rfl

theorem steps_join {p q : Path} (hq : q.isAbsolute = false) :
    (p.join q).steps = p.steps ++ q.steps := by
  rw [steps, segments_join hq, List.filterMap_append, filterMap_trunk]
  rfl

theorem isAbsolute_join {p q : Path} (hp : p.text ≠ "") (hq : q.isAbsolute = false) :
    (p.join q).isAbsolute = p.isAbsolute := by
  obtain ⟨c, s, hs⟩ := List.exists_cons_of_ne_nil (mt String.toList_eq_nil_iff.mp hp)
  unfold join
  rw [if_neg (by simp [hq])]
  split <;> simp [isAbsolute, hs]

theorem head?_trunk {p : Path} (hp : p.text ≠ "") : p.trunk.head? = p.segments.head? := by
  unfold trunk
  split
  · next h =>
    have hslash : p.text.toList.getLast? = some '/' := by simpa [hp] using h
    obtain ⟨s, hs⟩ := List.getLast?_eq_some_iff.mp hslash
    obtain ⟨first, rest, hsplit⟩ := List.exists_cons_of_ne_nil (List.splitOn_ne_nil '/' s)
    have hsegments : p.segments = (first :: rest).map String.ofList ++ [""] := by
      simp [segments, hs, List.splitOn_append_cons_self, hsplit]
    rw [hsegments, List.dropLast_concat]
    rfl
  · rfl

theorem start_join {p q : Path} (hp : p.text ≠ "") (hq : q.isAbsolute = false) :
    (p.join q).start = p.start := by
  obtain ⟨first, rest, hfirst⟩ := List.exists_cons_of_ne_nil p.segments_ne_nil
  have hhead : (p.join q).segments.head? = p.segments.head? := by
    rw [segments_join hq, List.head?_append, head?_trunk hp, hfirst]
    rfl
  rw [start, start, isAbsolute_join hp hq, hhead]

/-! Going down. A path of names alone goes down through them; the start of a path and a step up are
no names. -/

/-- From wherever the path is followed, it goes down through `names`. -/
def Descends (p : Path) (names : List String) : Prop := p.components = names.map .name

theorem descends_iff {p : Path} {names : List String} :
    p.Descends names ↔ p.start = [] ∧ p.steps = names.map .name := by
  rw [Descends, components_eq]
  constructor
  · intro h
    have hstart : p.start = [] := by
      unfold start at h ⊢
      split_ifs at h ⊢ <;> cases names <;> simp_all
    rw [hstart, List.nil_append] at h
    exact ⟨hstart, h⟩
  · rintro ⟨hstart, hsteps⟩
    rw [hstart, hsteps, List.nil_append]

theorem Descends.isAbsolute_eq_false {p : Path} {names : List String} (h : p.Descends names) :
    p.isAbsolute = false := by
  rw [← Bool.not_eq_true]
  intro habs
  have hstart := (descends_iff.mp h).1
  simp [start, habs] at hstart

theorem Descends.isAbsolute_join {q : Path} {names : List String} (hq : q.Descends names) (p : Path) :
    (p.join q).isAbsolute = p.isAbsolute := by
  have hrel := hq.isAbsolute_eq_false
  by_cases hempty : p.text = ""
  · have hjoin : p.join q = q := by simp [join, hrel, hempty]
    rw [hjoin, hrel]
    simp [isAbsolute, hempty]
  · exact Path.isAbsolute_join hempty hrel

theorem descends_empty : Descends ⟨""⟩ [] := by
  simp [descends_iff, start, steps, segments, isAbsolute, Component.ofSegment?]

theorem Descends.join {p q : Path} {names names' : List String} (hp : p.Descends names)
    (hq : q.Descends names') : (p.join q).Descends (names ++ names') := by
  have hrel := hq.isAbsolute_eq_false
  rw [descends_iff] at hp hq ⊢
  refine ⟨?_, by rw [steps_join hrel, hp.2, hq.2, List.map_append]⟩
  by_cases hempty : p.text = ""
  · have hjoin : p.join q = q := by simp [Path.join, hrel, hempty]
    rw [hjoin]
    exact hq.1
  · rw [start_join hempty hrel]
    exact hp.1

theorem Descends.below {p : Path} {names : List String} (hp : p.Descends names)
    {inner : String → List String} {ss : List String}
    (hs : ∀ s ∈ ss, Descends ⟨s⟩ (inner s)) : (p.below ss).Descends (names ++ ss.flatMap inner) := by
  induction ss generalizing p names with
  | nil => simpa [Path.below] using hp
  | cons s ss ih =>
    have hfirst := hp.join (hs s List.mem_cons_self)
    have hrest := ih hfirst fun s' h => hs s' (List.mem_cons_of_mem _ h)
    rw [List.append_assoc] at hrest
    exact hrest

def namesIn (s : String) : List String := ((s.toList.splitOn '/').filter (· ≠ [])).map String.ofList

theorem descends_namesIn {s : String} (hrel : s.toList.head? ≠ some '/')
    (hdots : ∀ piece ∈ s.toList.splitOn '/', piece ≠ ['.'] ∧ piece ≠ ['.', '.']) :
    Descends ⟨s⟩ (namesIn s) := by
  rw [descends_iff]
  constructor
  · have hcurrent : (segments ⟨s⟩).head? ≠ some "." := by
      intro h
      obtain ⟨piece, hpiece, heq⟩ := List.mem_map.mp (List.mem_of_mem_head? h)
      exact (hdots piece hpiece).1 (by simpa using congrArg String.toList heq)
    simp [start, isAbsolute, hrel, hcurrent]
  · have hpieces : ∀ piece ∈ s.toList.splitOn '/', Component.ofSegment? (String.ofList piece) =
        if piece ≠ [] then some (.name (String.ofList piece)) else none := by
      intro piece hpiece
      unfold Component.ofSegment?
      split
      · next h => simp [String.ofList_eq_empty_iff.mp h]
      · next h => exact absurd (by simpa using congrArg String.toList h) (hdots piece hpiece).1
      · next h => exact absurd (by simpa using congrArg String.toList h) (hdots piece hpiece).2
      · next h _ _ => rw [if_pos fun hnil => h (by rw [hnil])]
    unfold steps segments namesIn
    rw [List.filterMap_map, List.map_map, ← List.filterMap_eq_map, List.filterMap_filter]
    exact List.filterMap_congr fun piece hpiece => by simpa using hpieces piece hpiece

end Path
end StateHolders
