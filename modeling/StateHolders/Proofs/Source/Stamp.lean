import StateHolders.Generation
import StateHolders.Proofs.Text.Cut

/-! Stamps of generated files. A generated text ends in a closing brace on a line of its own, so it has
no stamp unless one has been added, and the stamp that has been added is what is taken off. -/

namespace StateHolders

namespace Text

/-! Cutting at the last occurrence of a mark. -/

theorem eq_append_of_cutLast? {mark s a b : List Char} (h : cutLast? mark s = some (a, b)) :
    s = a ++ (mark ++ b) := by
  induction s generalizing a with
  | nil => cases h
  | cons c s ih =>
    rw [cutLast?] at h
    split at h
    · next a' b' hs =>
      cases h
      rw [ih hs, List.cons_append]
    · obtain ⟨r, hr, heq⟩ := Option.map_eq_some_iff.mp h
      cases heq
      exact (eq_append_of_afterPrefix? hr : c :: s = mark ++ b)

/-- A mark that does not occur again after its first character is the last one. -/
theorem cutLast?_append {c : Char} {mark b : List Char}
    (h : cutLast? (c :: mark) (mark ++ b) = none) (a : List Char) :
    cutLast? (c :: mark) (a ++ c :: (mark ++ b)) = some (a, b) := by
  induction a with
  | nil =>
    have hmark := afterPrefix?_append (c :: mark) b
    rw [List.nil_append, cutLast?, h]
    rw [List.cons_append] at hmark
    simp [hmark]
  | cons d a ih => rw [List.cons_append, cutLast?, ih]

end Text

namespace Source

open Text (cutLast?)

def stampComment : List Char := "// Generated at ".toList

theorem toList_stampMark : stampMark.toList = '\n' :: stampComment := by decide

theorem stampComment_ne_nil : stampComment ≠ [] := by decide

theorem lineBreak_notMem_stampComment : '\n' ∉ stampComment := by decide

theorem cutLast?_stampMark_eq_none {tail : List Char} (htail : '\n' ∉ tail.dropLast) :
    cutLast? ('\n' :: stampComment) (stampComment ++ tail) = none := by
  rw [Option.eq_none_iff_forall_ne_some]
  rintro ⟨a, b⟩ h
  -- a second mark would have its line break before the last character
  have hcut := congrArg List.dropLast (Text.eq_append_of_cutLast? h)
  have hrest : stampComment ++ b ≠ [] := List.append_ne_nil_of_left_ne_nil stampComment_ne_nil b
  rw [List.cons_append, List.dropLast_append_of_ne_nil (List.cons_ne_nil _ _),
    List.dropLast_cons_of_ne_nil hrest] at hcut
  have hmem : '\n' ∈ (stampComment ++ tail).dropLast := by
    rw [hcut]
    simp
  by_cases hnil : tail = []
  · rw [hnil, List.append_nil] at hmem
    exact lineBreak_notMem_stampComment (List.dropLast_subset _ hmem)
  · rw [List.dropLast_append_of_ne_nil hnil] at hmem
    exact (List.mem_append.mp hmem).elim lineBreak_notMem_stampComment htail

theorem isDigit_of_mem_toString {n : Nat} : ∀ c ∈ (toString n).toList, c.isDigit = true := by
  intro c hc
  rw [Nat.toString_eq_ofList_toDigits, String.toList_ofList] at hc
  exact Nat.isDigit_of_mem_toDigits (by decide) (by decide) hc

theorem lineBreak_notMem_of_digits {digits : List Char} (h : ∀ c ∈ digits, c.isDigit = true) :
    '\n' ∉ digits := fun hmem => by simpa using h '\n' hmem

theorem isStampTail_iff {tail : List Char} : isStampTail tail = true ↔
    ∃ digits, digits ≠ [] ∧ (∀ c ∈ digits, c.isDigit = true) ∧
      (tail = digits ∨ tail = digits ++ ['\n']) := by
  unfold isStampTail
  constructor
  · intro h
    rw [Bool.and_eq_true, Bool.not_eq_true', List.isEmpty_eq_false_iff, List.all_eq_true] at h
    refine ⟨_, h.1, h.2, ?_⟩
    split
    · next hlast =>
      obtain ⟨digits, rfl⟩ := List.getLast?_eq_some_iff.mp hlast
      simp
    · exact .inl rfl
  · rintro ⟨digits, hne, hdigits, rfl | rfl⟩
    · have hlast : tail.getLast? ≠ some '\n' := fun h =>
        lineBreak_notMem_of_digits hdigits (List.mem_of_getLast? h)
      simpa [hlast, hne] using hdigits
    · simpa [hne] using hdigits

def IsStamp (s : String) : Prop :=
  ∃ digits : String, digits ≠ "" ∧ (∀ c ∈ digits.toList, c.isDigit = true) ∧
    (s = stampMark ++ digits ∨ s = stampMark ++ digits ++ "\n")

theorem isStamp_iff {s : String} :
    IsStamp s ↔ ∃ tail, isStampTail tail = true ∧ s.toList = stampMark.toList ++ tail := by
  simp only [isStampTail_iff]
  constructor
  · rintro ⟨digits, hne, hdigits, rfl | rfl⟩
    · exact ⟨_, ⟨digits.toList, by simpa using hne, hdigits, .inl rfl⟩, String.toList_append⟩
    · exact ⟨_, ⟨digits.toList, by simpa using hne, hdigits, .inr rfl⟩, by simp⟩
  · rintro ⟨tail, ⟨digits, hne, hdigits, rfl | rfl⟩, hs⟩
    · exact ⟨String.ofList tail, by simpa using hne, by simpa using hdigits,
        .inl (String.toList_inj.mp (by simpa using hs))⟩
    · exact ⟨String.ofList digits, by simpa using hne, by simpa using hdigits,
        .inr (String.toList_inj.mp (by simpa using hs))⟩

theorem isStamp_stamp (seconds : Nat) : IsStamp (stamp seconds) := by
  refine ⟨toString seconds, ?_, isDigit_of_mem_toString, .inr rfl⟩
  rw [Nat.toString_eq_ofList_toDigits, ne_eq, String.ofList_eq_empty_iff]
  exact Nat.toDigits_ne_nil

theorem withoutStamp_append {s : String} (h : IsStamp s) (text : String) :
    withoutStamp (text ++ s) = text := by
  obtain ⟨tail, htail, hs⟩ := isStamp_iff.mp h
  have hbreak : '\n' ∉ tail.dropLast := by
    obtain ⟨digits, -, hdigits, rfl | rfl⟩ := isStampTail_iff.mp htail
    · exact fun hmem => lineBreak_notMem_of_digits hdigits (List.dropLast_subset _ hmem)
    · rw [List.dropLast_concat]
      exact lineBreak_notMem_of_digits hdigits
  have hcut : cutLast? stampMark.toList (text ++ s).toList = some (text.toList, tail) := by
    have h := Text.cutLast?_append (cutLast?_stampMark_eq_none hbreak) text.toList
    rwa [← List.cons_append, ← toList_stampMark, ← hs, ← String.toList_append] at h
  rw [withoutStamp, hcut]
  simp only [htail, if_true, String.ofList_toList]

theorem isStampTail_eq_false {s a b : List Char} (h : s ++ ['\x7d', '\n'] = a ++ b) :
    isStampTail b = false := by
  rcases List.eq_nil_or_concat b with rfl | ⟨b', x, rfl⟩
  · rfl
  · rw [List.concat_eq_append] at h ⊢
    have hlast : (s ++ ['\x7d']) ++ ['\n'] = (a ++ b') ++ [x] := by simpa using h
    obtain ⟨hinit, hx⟩ := List.append_inj' hlast rfl
    obtain rfl : '\n' = x := List.singleton_inj.mp hx
    rcases List.eq_nil_or_concat b' with rfl | ⟨b'', y, rfl⟩
    · rfl
    · rw [List.concat_eq_append, ← List.append_assoc] at hinit
      obtain rfl : '\x7d' = y := List.singleton_inj.mp (List.append_inj' hinit rfl).2
      simp [isStampTail]

theorem withoutStamp_append_brace (text : String) :
    withoutStamp (text ++ "\x7d\n") = text ++ "\x7d\n" := by
  unfold withoutStamp
  split
  · next a b hcut =>
    have hend := Text.eq_append_of_cutLast? hcut
    rw [String.toList_append, ← List.append_assoc] at hend
    rw [isStampTail_eq_false hend]
    rfl
  · rfl

/-! The body of each generated file ends in the line that closes its last function. -/

def closingLine : Line := ⟨0, ["\x7d"]⟩

theorem Line.renderAll_append (n : Naming) (ls ls' : List Line) :
    renderAll n (ls ++ ls') = renderAll n ls ++ renderAll n ls' := by
  induction ls with
  | nil => simp [renderAll]
  | cons l ls ih => simp [renderAll, ih, String.append_assoc]

theorem frame_stamped (t : ImportTable) (body : List Line) (stampedAt : Option Nat) :
    frame t body stampedAt = frame t body none ++ (stampedAt.map stamp).getD "" := by
  simp [frame]

theorem withoutStamp_frame (t : ImportTable) (ls : List Line) (stampedAt : Option Nat) :
    withoutStamp (frame t (ls ++ [closingLine]) stampedAt) = frame t (ls ++ [closingLine]) none := by
  cases stampedAt with
  | some seconds =>
    rw [frame_stamped]
    exact withoutStamp_append (isStamp_stamp seconds) _
  | none =>
    have hclosing : Line.renderAll t.naming [closingLine] = "\x7d\n" := rfl
    have hend : frame t (ls ++ [closingLine]) none = frame t ls none ++ "\x7d\n" := by
      simp [frame, Line.renderAll_append, hclosing, String.append_assoc]
    rw [hend]
    exact withoutStamp_append_brace _

end Source

namespace ResolvedHolder

open Source

theorem exists_factory_body (c : ResolvedHolder) : ∃ ls, Factory.body c = ls ++ [closingLine] :=
  ⟨_, rfl⟩

theorem exists_saver_body (c : ResolvedHolder) : ∃ ls, Saver.body c = ls ++ [closingLine] :=
  ⟨_, (List.append_assoc _ _ _).symm⟩

theorem stableText_factory (c : ResolvedHolder) (stampedAt : Option Nat) :
    (Factory.file c stampedAt).stableText = (Factory.file c none).text := by
  obtain ⟨ls, hls⟩ := c.exists_factory_body
  simp only [File.stableText, Factory.file, hls]
  exact withoutStamp_frame _ ls stampedAt

theorem stableText_saver (c : ResolvedHolder) (stampedAt : Option Nat) :
    (Saver.file c stampedAt).stableText = (Saver.file c none).text := by
  obtain ⟨ls, hls⟩ := c.exists_saver_body
  simp only [File.stableText, Saver.file, hls]
  exact withoutStamp_frame _ ls stampedAt

end ResolvedHolder
end StateHolders
