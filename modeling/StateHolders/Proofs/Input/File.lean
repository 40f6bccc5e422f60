import StateHolders.Input
import StateHolders.Proofs.FileTree.Listing
import StateHolders.Proofs.Json.Reading

/-! Reading one file. The path of what is in a directory leads there unless nothing can be reached by it; what the
file comes to then depends on nothing but its content. -/

namespace StateHolders

namespace Path

/-- Why nothing can be reached by the path, whatever there is. -/
def obstacle? (p : Path) : Option FileError :=
  if '\x00' ∈ p.text.toList then some .nulInPath
  else if 4096 ≤ p.text.utf8ByteSize ∨ ∃ s ∈ p.segments, 255 < s.utf8ByteSize then some .nameTooLong
  else none

theorem text_ne_empty_of_segments {p : Path} {ss : List String} {s : String} (h : p.segments = ss ++ [s])
    (hs : s ≠ "") : p.text ≠ "" := by
  intro hempty
  have hsegments : p.segments = [""] := by simp [segments, hempty]
  rw [hsegments] at h
  have hlast := congrArg List.getLast? h
  rw [List.getLast?_concat] at hlast
  exact hs (Option.some.inj hlast).symm

end Path

namespace FileTree

variable {t : FileTree} {p : Path} {place next : Place} {ss names : List String} {name s : String}

theorem size_le_of_step (h : t.step place s = .ok next) : s.utf8ByteSize ≤ 255 := by
  unfold step at h
  split at h
  · cases h
  · cases h
  · split_ifs at h with hstay hup hsize
    · rcases Bool.or_eq_true_iff.mp hstay with hs | hs <;> rw [of_decide_eq_true hs] <;> decide
    · rw [hup]
      decide
    · omega

theorem size_le_of_walk (h : t.walk place ss = .ok next) : ∀ s ∈ ss, s.utf8ByteSize ≤ 255 := by
  induction ss generalizing place with
  | nil => exact nofun
  | cons s ss ih =>
    obtain ⟨mid, hmid, hrest⟩ := bind_eq_ok_iff.mp h
    exact List.forall_mem_cons.mpr ⟨size_le_of_step hmid, ih hrest⟩

theorem walk_trunk_of_locate (hlocate : t.locate p = .ok place) :
    t.walk (t.origin p) p.trunk = .ok place := by
  obtain ⟨⟨-, hne, -⟩, hwalk⟩ := locate_eq_ok_iff.mp hlocate
  unfold Path.trunk
  split
  · next h =>
    rw [Bool.or_eq_true, decide_eq_true_eq, decide_eq_true_eq] at h
    obtain ⟨s, hs⟩ := List.getLast?_eq_some_iff.mp (h.resolve_left hne)
    have hsegments : p.segments = p.segments.dropLast ++ [""] := by
      simp [Path.segments, hs, List.splitOn_append_cons_self]
    rw [hsegments, walk_append, bind_eq_ok_iff] at hwalk
    obtain ⟨mid, hmid, hlast⟩ := hwalk
    obtain ⟨last, hstep, heq⟩ := bind_eq_ok_iff.mp hlast
    obtain rfl : last = place := Except.ok.inj heq
    obtain ⟨-, rfl⟩ := (step_eq_ok_iff_of_none rfl).mp hstep
    exact hmid
  · exact hwalk

theorem walk_singleton (t : FileTree) (place : Place) (s : String) : t.walk place [s] = t.step place s := by
  rw [walk]
  cases t.step place s <;> rfl

theorem step_of_isEntryName (hname : Path.IsEntryName name) (hdirectory : t.node? place = some .directory) :
    t.step place name = if 255 < name.utf8ByteSize then .error .nameTooLong else .ok (place ++ [name]) := by
  simp [step, hdirectory, hname.1, hname.2.1, hname.2.2.1]

theorem locate_join_of_isEntryName (hname : Path.IsEntryName name) (hlocate : t.locate p = .ok place)
    (hdirectory : t.node? place = some .directory) : t.locate (p.join ⟨name⟩) =
      match (p.join ⟨name⟩).obstacle? with
      | some cause => .error cause
      | none => .ok (place ++ [name]) := by
  have hsegments : (p.join ⟨name⟩).segments = p.trunk ++ [name] := by
    rw [Path.segments_join hname.descends.isAbsolute_eq_false, hname.segments]
  have htrunk := walk_trunk_of_locate hlocate
  have hsize : (∃ s ∈ (p.join ⟨name⟩).segments, 255 < s.utf8ByteSize) ↔ 255 < name.utf8ByteSize := by
    -- a name on the way to the directory would have stopped the walk there
    have hsmall := size_le_of_walk htrunk
    rw [hsegments]
    constructor
    · rintro ⟨s, hs, hlong⟩
      rcases List.mem_append.mp hs with hs | hs
      · exact absurd hlong (by have := hsmall s hs; omega)
      · rwa [List.mem_singleton.mp hs] at hlong
    · exact fun hlong => ⟨name, by simp, hlong⟩
  have hwalk : t.walk (t.origin (p.join ⟨name⟩)) (p.join ⟨name⟩).segments =
      if 255 < name.utf8ByteSize then .error .nameTooLong else .ok (place ++ [name]) := by
    rw [origin, hname.descends.isAbsolute_join, ← origin, hsegments, walk_append, htrunk,
      ← step_of_isEntryName hname hdirectory]
    exact walk_singleton t place name
  rw [locate, if_neg (Path.text_ne_empty_of_segments hsegments hname.1), ← origin, hwalk]
  simp only [Path.obstacle?, hsize]
  split_ifs <;> first | rfl | omega

end FileTree

namespace Input

variable {t : FileTree} {p q : Path} {place : Place} {name : String} {names : List String} {content : Content}

/-- What a file comes to: the declarations that its text writes, or why there are none. -/
def outcome (q : Path) (content : Content) : Except InputError (List Declaration) :=
  match q.obstacle?, content with
  | some cause, _ => .error (.unreadable q cause)
  | none, .binary _ => .error (.unreadable q .notText)
  | none, .text s =>
    match Json.parse? s with
    | none => .error (.notJson q)
    | some value => (Decode.declarations value).mapError (.notDeclarations q)

theorem readFile_eq_outcome (hlocate : t.locate q =
      match q.obstacle? with
      | some cause => .error cause
      | none => .ok place)
    (hnode : t.node? place = some (.file content)) : readFile t q = outcome q content := by
  unfold readFile outcome FileTree.readText
  rw [hlocate]
  cases q.obstacle? with
  | some cause => rfl
  | none =>
    simp only [bind, Except.bind, hnode]
    cases content <;> rfl

theorem parse_compact {value : Json} {ds : List Declaration}
    (hcompact : Json.isCompact Json.maxDepth value = true) (hdecode : Decode.declarations value = .ok ds) :
    parse q (String.ofList value.compact) = .ok ds := by
  rw [parse, Json.parse?_compact hcompact]
  simp only [hdecode]
  rfl

end Input
end StateHolders
