import Mathlib.Data.List.Basic
import StateHolders.Proofs.Store.Memory

/-! What a sequence of writes leaves in memory. Each path can be looked at by itself: the text there is the one
that was there, taken through the files that go there, and the last of them decides all but the stamp. -/

namespace StateHolders

namespace Source.File

def GoesTo (f : File) (p : Path) : Prop := f.relativePath.components = p.components

instance (f : File) (p : Path) : Decidable (f.GoesTo p) := inferInstanceAs (Decidable (_ = _))

def lastTo? (files : List File) (p : Path) : Option File := (files.filter (·.GoesTo p)).getLast?

end Source.File

namespace Store.Memory

open Source (File withoutStamp)

variable {m : Memory} {f g : File} {p q : Path} {files : List File} {stored : Option String}
  {text : String}

def writes (m : Memory) (files : List File) : Memory := files.foldl (fun m f => (write m f).1) m

def overwrite (stored : Option String) (f : File) : Option String :=
  if stored.map withoutStamp = some f.stableText then stored else some f.text

/-! One write to a path. -/

theorem overwrite_of_eq (h : stored.map withoutStamp = some f.stableText) :
    overwrite stored f = stored := if_pos h

theorem overwrite_cases (stored : Option String) (f : File) :
    overwrite stored f = stored ∨ overwrite stored f = some f.text := by
  unfold overwrite
  split
  · exact .inl rfl
  · exact .inr rfl

theorem map_withoutStamp_overwrite (stored : Option String) (f : File) :
    (overwrite stored f).map withoutStamp = some f.stableText := by
  unfold overwrite
  split
  · assumption
  · rfl

theorem get?_congr (m : Memory) (h : p.components = q.components) : m.get? p = m.get? q := by
  rw [get?, get?, h]

theorem get?_write (m : Memory) (f : File) (p : Path) :
    (write m f).1.get? p = if f.GoesTo p then overwrite (m.get? p) f else m.get? p := by
  by_cases hm : m.IsSettled f
  · rw [write_of_isSettled hm]
    split
    · next hp =>
      rw [IsSettled, m.get?_congr hp] at hm
      exact (overwrite_of_eq hm).symm
    · rfl
  · rw [write_of_not_isSettled hm, get?_insert]
    by_cases hp : f.GoesTo p
    · rw [IsSettled, m.get?_congr hp] at hm
      rw [if_pos hp.symm, if_pos hp, overwrite, if_neg hm]
    · rw [if_neg (Ne.symm hp), if_neg hp]

theorem snd_write_eq_unchanged_iff (m : Memory) (f : File) :
    (write m f).2 = .ok .unchanged ↔ (write m f).1 = m := by
  by_cases hm : m.IsSettled f
  · rw [write_of_isSettled hm]
    exact iff_of_true rfl rfl
  · rw [write_of_not_isSettled hm]
    refine iff_of_false nofun fun hsame => hm ?_
    have hget : m.get? f.relativePath = some f.text := by
      rw [← congrArg (·.get? f.relativePath) hsame]
      exact (get?_insert _ _ _ _).trans (if_pos rfl)
    rw [IsSettled, hget, Option.map_some, File.stableText]

/-! A run of writes to a path. -/

theorem get?_writes (m : Memory) (files : List File) (p : Path) :
    (m.writes files).get? p = (files.filter (·.GoesTo p)).foldl overwrite (m.get? p) := by
  unfold writes
  -- the store is general: a file that goes elsewhere changes it, and leaves what is under `p`
  induction files generalizing m with
  | nil => rfl
  | cons f files ih =>
    rw [List.foldl_cons, ih, get?_write]
    by_cases hp : f.GoesTo p <;> simp [hp]

theorem map_withoutStamp_foldl_overwrite (h : files.getLast? = some f) :
    (files.foldl overwrite stored).map withoutStamp = some f.stableText := by
  obtain ⟨front, rfl⟩ := List.getLast?_eq_some_iff.mp h
  rw [List.foldl_append]
  exact map_withoutStamp_overwrite _ f

theorem foldl_overwrite_cases (files : List File) (stored : Option String) :
    files.foldl overwrite stored = stored ∨
      ∃ f ∈ files, files.foldl overwrite stored = some f.text := by
  induction files generalizing stored with
  | nil => exact .inl rfl
  | cons f files ih =>
    rw [List.foldl_cons]
    rcases ih (overwrite stored f) with hkept | ⟨g, hg, htext⟩
    · rw [hkept]
      exact (overwrite_cases stored f).imp id fun htext => ⟨f, List.mem_cons_self, htext⟩
    · exact .inr ⟨g, List.mem_cons_of_mem _ hg, htext⟩

theorem foldl_overwrite_of_eq (h : ∀ f ∈ files, stored.map withoutStamp = some f.stableText) :
    files.foldl overwrite stored = stored := by
  induction files with
  | nil => rfl
  | cons f files ih =>
    rw [List.forall_mem_cons] at h
    rw [List.foldl_cons, overwrite_of_eq h.1, ih h.2]

theorem isSettled_writes (h : File.lastTo? files p = some f) : (m.writes files).IsSettled f := by
  have hmem : f ∈ files.filter (·.GoesTo p) := List.mem_of_getLast? h
  have hp : f.GoesTo p := of_decide_eq_true (List.mem_filter.mp hmem).2
  rw [IsSettled, get?_congr _ hp, get?_writes]
  exact map_withoutStamp_foldl_overwrite h

theorem lastTo?_of_getLast? (h : files.getLast? = some f) :
    File.lastTo? files f.relativePath = some f := by
  obtain ⟨front, rfl⟩ := List.getLast?_eq_some_iff.mp h
  have hself : f.GoesTo f.relativePath := rfl
  simp [File.lastTo?, hself]

/-- What a store that was `m` and has got `files` holds, and how it answers the next write. -/
structure HoldsLastWrites (m : Memory) (files : List File) (m' : Memory) : Prop where
  stable : ∀ p f, File.lastTo? files p = some f →
    (m'.get? p).map withoutStamp = some f.stableText
  origin : ∀ p text, m'.get? p = some text →
    (∃ f ∈ files, f.GoesTo p ∧ f.text = text) ∨ m.get? p = some text
  others : ∀ p, (∀ f ∈ files, ¬f.GoesTo p) → m'.get? p = m.get? p
  stamp_kept : ∀ p, (∀ f ∈ files, f.GoesTo p →
    (m.get? p).map withoutStamp = some f.stableText) → m'.get? p = m.get? p
  answered : ∀ f, (write m' f).2 = .ok .unchanged ∨ (write m' f).2 = .ok .written
  unchanged_iff : ∀ f, (write m' f).2 = .ok .unchanged ↔ (write m' f).1 = m'
  settled : ∀ p f, File.lastTo? files p = some f → write m' f = (m', .ok .unchanged)
  again : ∀ f, files.getLast? = some f → write m' f = (m', .ok .unchanged)

/-- Whatever is in memory and whatever is written to it, the last file that goes to a path decides what is
there but for the stamp, and nothing else moves. -/
theorem last_write_wins (m : Memory) (files : List File) :
    HoldsLastWrites m files (m.writes files) where
  stable p f h := by
    rw [get?_writes]
    exact map_withoutStamp_foldl_overwrite h
  origin p text h := by
    rw [get?_writes] at h
    rcases foldl_overwrite_cases (files.filter (·.GoesTo p)) (m.get? p) with hkept | ⟨f, hf, htext⟩
    · exact .inr (hkept ▸ h)
    · rw [List.mem_filter, decide_eq_true_eq] at hf
      exact .inl ⟨f, hf.1, hf.2, Option.some.inj (htext.symm.trans h)⟩
  others p h := by
    have hnone : files.filter (·.GoesTo p) = [] := by simpa using h
    rw [get?_writes, hnone, List.foldl_nil]
  stamp_kept p h := by
    rw [get?_writes]
    refine foldl_overwrite_of_eq fun f hf => ?_
    rw [List.mem_filter, decide_eq_true_eq] at hf
    exact h f hf.1 hf.2
  answered f := by
    by_cases hm : (m.writes files).IsSettled f
    · exact .inl (by rw [write_of_isSettled hm])
    · exact .inr (by rw [write_of_not_isSettled hm])
  unchanged_iff f := snd_write_eq_unchanged_iff _ f
  settled p f h := write_of_isSettled (isSettled_writes h)
  again f h := write_of_isSettled (isSettled_writes (lastTo?_of_getLast? h))

example :
    (empty.writes [⟨"app", "A", "a\n\n// Generated at 1\n"⟩, ⟨"app//", "A", "a\n"⟩]).entries =
      [(⟨"app/A.kt"⟩, "a\n\n// Generated at 1\n")] := by
  decide +kernel

end Store.Memory
end StateHolders
