import StateHolders.Proofs.Except
import StateHolders.Store.Outcome

/-! Passes over a list of files. A store keeps a file settled from the write that settles it to the
end of the pass, if the files after it are apart from it; the next pass finds all of them unchanged. -/

namespace StateHolders.Store

open Source (File)

variable {σ : Type} {write : Write σ} {s s' : σ} {files : List File} {summary : WriteSummary}

theorem writeAll_cons_of_error {f : File} {e : WriteError} (h : write s f = (s', .error e))
    (files : List File) : writeAll write s (f :: files) = (s', .error e) := by
  rw [writeAll, h]

theorem writeAll_cons_of_ok {f : File} {mid : σ} {outcome : WriteOutcome}
    (h : write s f = (mid, .ok outcome)) (files : List File) :
    writeAll write s (f :: files) = ((writeAll write mid files).1,
      (writeAll write mid files).2.map (·.add f.relativePath outcome)) := by
  rw [writeAll, h]
  dsimp only
  split <;> next hrest => rw [hrest]; rfl

theorem writeAll_cons_eq_ok {f : File} (h : writeAll write s (f :: files) = (s', .ok summary)) :
    ∃ mid outcome rest, write s f = (mid, .ok outcome) ∧
      writeAll write mid files = (s', .ok rest) ∧ summary = rest.add f.relativePath outcome := by
  rcases hwrite : write s f with ⟨mid, e | outcome⟩
  · rw [writeAll_cons_of_error hwrite] at h
    cases h
  · rw [writeAll_cons_of_ok hwrite, Prod.mk.injEq, map_eq_ok_iff] at h
    obtain ⟨hstate, rest, hrest, hsummary⟩ := h
    exact ⟨mid, outcome, rest, rfl, Prod.ext hstate hrest, hsummary⟩

theorem exists_of_snd_writeAll (h : (writeAll write s files).2 = .ok summary) :
    ∃ s', writeAll write s files = (s', .ok summary) :=
  ⟨_, Prod.ext rfl h⟩

theorem writeAll_induction {P : σ → Prop}
    (hstep : ∀ f ∈ files, ∀ s s' outcome, write s f = (s', .ok outcome) → P s → P s')
    (h : writeAll write s files = (s', .ok summary)) (hs : P s) : P s' := by
  induction files generalizing s summary with
  | nil =>
    cases h
    exact hs
  | cons f files ih =>
    obtain ⟨mid, outcome, rest, hwrite, hrest, -⟩ := writeAll_cons_eq_ok h
    exact ih (fun g hg => hstep g (List.mem_cons_of_mem _ hg)) hrest
      (hstep f List.mem_cons_self s mid outcome hwrite hs)

theorem rel_writeAll {R : σ → σ → Prop}
    (hrefl : ∀ s, R s s) (htrans : ∀ {s s' s''}, R s s' → R s' s'' → R s s'')
    (hwrite : ∀ f ∈ files, ∀ s, R s (write s f).1) (s : σ) : R s (writeAll write s files).1 := by
  induction files generalizing s with
  | nil => exact hrefl s
  | cons f files ih =>
    rw [List.forall_mem_cons] at hwrite
    have hfirst := hwrite.1 s
    rcases hf : write s f with ⟨s', e | outcome⟩
    · rw [hf] at hfirst
      rwa [writeAll_cons_of_error hf]
    · rw [hf] at hfirst
      rw [writeAll_cons_of_ok hf]
      exact htrans hfirst (ih hwrite.2 s')

def SameButStamp (f g : File) : Prop :=
  f.relativePath = g.relativePath ∧ f.stableText = g.stableText

/-- How writes settle files: a settled file is found unchanged, and stays settled when files are
written that are apart from it. -/
structure Settles (write : Write σ) (Settled : σ → File → Prop) (Apart : File → File → Prop) :
    Prop where
  settled : ∀ {s s' f outcome}, write s f = (s', .ok outcome) → Settled s' f
  kept : ∀ {s s' f g outcome}, Apart f g → write s g = (s', .ok outcome) → Settled s f →
    Settled s' f
  unchanged : ∀ {s f}, Settled s f → write s f = (s, .ok .unchanged)
  congr : ∀ {s f g}, SameButStamp f g → Settled s f → Settled s g

theorem writeAll_of_unchanged (h : ∀ f ∈ files, write s f = (s, .ok .unchanged)) :
    writeAll write s files = (s, .ok ⟨0, files.length, []⟩) := by
  induction files with
  | nil => rfl
  | cons f files ih =>
    rw [List.forall_mem_cons] at h
    simp [writeAll, h.1, ih h.2, WriteSummary.add]

namespace Settles

variable {Settled : σ → File → Prop} {Apart : File → File → Prop}

theorem settled_of_writeAll (hw : Settles write Settled Apart) (hfiles : files.Pairwise Apart)
    (h : writeAll write s files = (s', .ok summary)) : ∀ f ∈ files, Settled s' f := by
  induction files generalizing s summary with
  | nil => simp
  | cons f files ih =>
    obtain ⟨mid, outcome, rest, hwrite, hrest, -⟩ := writeAll_cons_eq_ok h
    rw [List.pairwise_cons] at hfiles
    rw [List.forall_mem_cons]
    refine ⟨?_, ih hfiles.2 hrest⟩
    -- the first file is settled at once, and no later one disturbs it
    exact writeAll_induction (P := (Settled · f))
      (fun g hg _ _ _ hg' hs => hw.kept (hfiles.1 g hg) hg' hs) hrest (hw.settled hwrite)

theorem settled_of_sameButStamp (hw : Settles write Settled Apart) (hfiles : files.Pairwise Apart)
    (h : writeAll write s files = (s', .ok summary)) {files' : List File}
    (hsame : List.Forall₂ SameButStamp files files') : ∀ f ∈ files', Settled s' f := by
  have hsettled := hw.settled_of_writeAll hfiles h
  clear h hfiles
  induction hsame with
  | nil => simp
  | cons hfirst _ ih =>
    rw [List.forall_mem_cons] at hsettled ⊢
    exact ⟨hw.congr hfirst hsettled.1, ih hsettled.2⟩

end Settles
end StateHolders.Store
