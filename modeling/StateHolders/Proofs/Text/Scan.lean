import StateHolders.Text.Blank

/-! What the readers take off the front of a text. A run is read as far as it goes: the rest must
not begin with a character of the run, and that makes the cut unique. -/

namespace StateHolders.Text

/-- The text is empty or begins with a character that `p` does not hold of. -/
def Halts (p : Char → Bool) (s : List Char) : Prop := ∀ c ∈ s.head?, p c = false

theorem halts_cons {p : Char → Bool} {c : Char} {s : List Char} (h : p c = false) :
    Halts p (c :: s) := by
  intro d hd
  cases hd
  exact h

theorem halts_dropWhile (p : Char → Bool) (s : List Char) : Halts p (s.dropWhile p) := by
  intro c hc
  have h := List.head?_dropWhile_not p s
  rw [Option.mem_def.mp hc] at h
  simpa using h

theorem takeWhile_append_of_halts {p : Char → Bool} {u r : List Char} (hu : ∀ c ∈ u, p c = true)
    (hr : Halts p r) : (u ++ r).takeWhile p = u := by
  rw [List.takeWhile_append_of_pos hu]
  cases r with
  | nil => simp
  | cons c r => simp [hr c rfl]

theorem dropWhile_append_of_halts {p : Char → Bool} {u r : List Char} (hu : ∀ c ∈ u, p c = true)
    (hr : Halts p r) : (u ++ r).dropWhile p = r := by
  rw [List.dropWhile_append_of_pos hu]
  cases r with
  | nil => rfl
  | cons c r => simp [hr c rfl]

theorem mem_takeWhile {p : Char → Bool} {s : List Char} :
    ∀ c ∈ s.takeWhile p, p c = true := by
  have h : (s.takeWhile p).all p = true := List.all_takeWhile
  exact List.all_eq_true.mp h

theorem accept_eq_some_iff_dropWhile {skips : Char → Bool} {c : Char} {s : List Char}
    {r : Rest s} : accept skips c s = some r ↔ s.dropWhile skips = c :: r.1 := by
  unfold accept
  split
  · next h => simp [h]
  · next d v h =>
    by_cases hd : d = c
    · subst hd
      simp [h, Subtype.ext_iff]
    · simp [h, hd]

theorem accept_eq_some_iff {skips : Char → Bool} {c : Char} (hc : skips c = false)
    {s : List Char} {r : Rest s} :
    accept skips c s = some r ↔ ∃ w, (∀ d ∈ w, skips d = true) ∧ s = w ++ c :: r.1 := by
  rw [accept_eq_some_iff_dropWhile]
  constructor
  · intro h
    refine ⟨s.takeWhile skips, mem_takeWhile, ?_⟩
    rw [← h, List.takeWhile_append_dropWhile]
  · rintro ⟨w, hw, hs⟩
    have h := dropWhile_append_of_halts (r := c :: r.1) hw (halts_cons hc)
    rwa [← hs] at h

theorem takeRun_eq_some_iff {p : Char → Bool} {s u : List Char} {r : Rest s} :
    takeRun p s = some (u, r) ↔
      u ≠ [] ∧ (∀ c ∈ u, p c = true) ∧ Halts p r.1 ∧ s = u ++ r.1 := by
  constructor
  · intro h
    unfold takeRun at h
    split at h
    · cases h
    · next hs =>
      obtain ⟨hu, hr⟩ := Prod.mk.inj (Option.some.inj h)
      subst hu hr
      exact ⟨hs, mem_takeWhile, halts_dropWhile p s, List.takeWhile_append_dropWhile.symm⟩
  · rintro ⟨hne, hu, hr, hs⟩
    have ht := takeWhile_append_of_halts hu hr
    have hd := dropWhile_append_of_halts hu hr
    rw [← hs] at ht hd
    unfold takeRun
    rw [dif_neg (by rw [ht]; exact hne)]
    simp [ht, hd]

theorem takeRun_eq_none_iff {p : Char → Bool} {s : List Char} :
    takeRun p s = none ↔ Halts p s := by
  have hnil : s.takeWhile p = [] ↔ Halts p s := by
    cases s with
    | nil => simp [Halts]
    | cons c s => cases hc : p c <;> simp [Halts, hc]
  rw [← hnil]
  unfold takeRun
  split <;> simp_all

end StateHolders.Text
