import StateHolders.Proofs.Store.Pass
import StateHolders.Store.Memory

/-! The store in memory, seen as a function from paths to texts. A write changes what is under its own
path and nothing else, however the entries are arranged. -/

namespace StateHolders.Store.Memory

open Source (File)

variable {m m' : Memory} {f g : File}

theorem find?_insertEntry (path q : Path) (text : String) (entries : List (Path × String)) :
    ((insertEntry path text entries).find? (·.1.components = q.components)).map Prod.snd =
      if q.components = path.components then some text
      else (entries.find? (·.1.components = q.components)).map Prod.snd := by
  induction entries with
  | nil =>
    by_cases hq : q.components = path.components <;> simp [insertEntry, hq, eq_comm]
  | cons entry entries ih =>
    obtain ⟨p, t⟩ := entry
    rw [insertEntry]
    split
    · next hp =>
      by_cases hq : q.components = path.components <;> simp [hp, hq, eq_comm]
    · next hp =>
      split
      · by_cases hq : q.components = path.components <;> simp [hq, eq_comm]
      · by_cases hpq : p.components = q.components
        · have hq : q.components ≠ path.components := hpq ▸ hp
          simp [hpq, hq]
        · simpa [hpq] using ih

theorem get?_insert (m : Memory) (path q : Path) (text : String) :
    (m.insert path text).get? q =
      if q.components = path.components then some text else m.get? q :=
  find?_insertEntry path q text m.entries

theorem length_insertEntry {path : Path} {text : String} {entries : List (Path × String)}
    (h : entries.find? (·.1.components = path.components) = none) :
    (insertEntry path text entries).length = entries.length + 1 := by
  induction entries with
  | nil => rfl
  | cons entry entries ih =>
    obtain ⟨p, t⟩ := entry
    rw [List.find?_cons] at h
    split at h
    · cases h
    · next hp =>
      rw [insertEntry, if_neg (by simpa using hp)]
      split
      · rfl
      · rw [List.length_cons, ih h, List.length_cons]

theorem size_insert {path : Path} (h : m.get? path = none) (text : String) :
    (m.insert path text).size = m.size + 1 :=
  length_insertEntry (Option.map_eq_none_iff.mp h)

def IsSettled (m : Memory) (f : File) : Prop :=
  (m.get? f.relativePath).map Source.withoutStamp = some f.stableText

theorem write_of_isSettled (h : m.IsSettled f) : write m f = (m, .ok .unchanged) := by
  rw [write]
  exact if_pos h

theorem write_of_not_isSettled (h : ¬m.IsSettled f) :
    write m f = (m.insert f.relativePath f.text, .ok .written) := by
  rw [write]
  exact if_neg h

theorem exists_writeAll (m : Memory) (files : List File) :
    ∃ m' summary, writeAll write m files = (m', .ok summary) := by
  induction files generalizing m with
  | nil => exact ⟨m, .empty, rfl⟩
  | cons f files ih =>
    by_cases hf : m.IsSettled f
    · obtain ⟨m', summary, h⟩ := ih m
      exact ⟨m', summary.add f.relativePath .unchanged, by
        simp only [writeAll, write_of_isSettled hf, h]⟩
    · obtain ⟨m', summary, h⟩ := ih (m.insert f.relativePath f.text)
      exact ⟨m', summary.add f.relativePath .written, by
        simp only [writeAll, write_of_not_isSettled hf, h]⟩

theorem settles : Settles write IsSettled fun f g =>
    f.relativePath.components ≠ g.relativePath.components where
  settled {m m' f outcome} h := by
    by_cases hm : m.IsSettled f
    · rw [write_of_isSettled hm] at h
      cases h
      exact hm
    · rw [write_of_not_isSettled hm] at h
      cases h
      simp [IsSettled, get?_insert, File.stableText]
  kept {m m' f g outcome} hne h hf := by
    by_cases hm : m.IsSettled g
    · rw [write_of_isSettled hm] at h
      cases h
      exact hf
    · rw [write_of_not_isSettled hm] at h
      cases h
      rwa [IsSettled, get?_insert, if_neg hne]
  unchanged := write_of_isSettled
  congr {m f g} hsame hf := by
    rwa [IsSettled, ← hsame.1, ← hsame.2]

theorem writeAll_of_get?_eq_none {files : List File}
    (hfiles : files.Pairwise fun f g => f.relativePath.components ≠ g.relativePath.components)
    (hfresh : ∀ f ∈ files, m.get? f.relativePath = none) :
    ∃ m', writeAll write m files = (m', .ok ⟨files.length, 0, []⟩) ∧
      m'.size = m.size + files.length ∧ (∀ f ∈ files, m'.get? f.relativePath = some f.text) ∧
      ∀ p : Path, (∀ f ∈ files, p.components ≠ f.relativePath.components) →
        m'.get? p = m.get? p := by
  induction files generalizing m with
  | nil => exact ⟨m, rfl, rfl, by simp, fun _ _ => rfl⟩
  | cons f files ih =>
    rw [List.pairwise_cons] at hfiles
    rw [List.forall_mem_cons] at hfresh
    have hnot : ¬m.IsSettled f := by simp [IsSettled, hfresh.1]
    -- the first text is not found under the paths of the others
    have hrest : ∀ g ∈ files, (m.insert f.relativePath f.text).get? g.relativePath = none := by
      intro g hg
      rw [get?_insert, if_neg (hfiles.1 g hg).symm, hfresh.2 g hg]
    obtain ⟨m', hpass, hsize, htexts, helse⟩ := ih hfiles.2 hrest
    refine ⟨m', ?_, ?_, ?_, fun p hp => ?_⟩
    · simp [writeAll, write_of_not_isSettled hnot, hpass, WriteSummary.add]
    · rw [hsize, size_insert hfresh.1, List.length_cons]
      omega
    · rw [List.forall_mem_cons]
      refine ⟨?_, htexts⟩
      rw [helse f.relativePath hfiles.1, get?_insert, if_pos rfl]
    · rw [List.forall_mem_cons] at hp
      rw [helse p hp.2, get?_insert, if_neg hp.1]

end StateHolders.Store.Memory
