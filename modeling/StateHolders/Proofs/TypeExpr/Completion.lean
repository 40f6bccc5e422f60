import StateHolders.Proofs.TypeExpr.Reading

/-! What is in front of a fault. Whatever the readers have taken off a text when they fail, a malformed name
apart, some type begins with it. -/

namespace StateHolders.TypeExpr

open Text (Blanks Halts Rest skipBlanks)

def Completes (u : List Char) : Prop := ∃ q t, Spells (u ++ q) t

def CompletesArgs (u : List Char) : Prop := ∃ q ts, SpellsItems (u ++ q) ts

/-- A run of name characters that is no name, between texts that it does not go on into. -/
structure IsMalformedRun (before run rest : List Char) : Prop where
  ne_nil : run ≠ []
  nameChars : ∀ c ∈ run, isNameChar c = true
  starts : ∀ c ∈ before.getLast?, isNameChar c = false
  ends : Halts isNameChar rest
  stray : run.head? = some '.' ∨ run.getLast? = some '.' ∨ ['.', '.'] <:+: run

/-- Reading `s` stops because of what comes after `p`, and that is no blank. -/
inductive StopsAfter (p : List Char) : List Char → Stop → Prop
  | here {fault : Fault} {rest : List Char} (hfault : fault ≠ .malformedName)
      (hrest : Halts Text.isBlank rest) : StopsAfter p (p ++ rest) ⟨fault, rest⟩
  | malformed {run rest : List Char} (hrun : IsMalformedRun p run rest) :
      StopsAfter p (p ++ run ++ rest) ⟨.malformedName, rest⟩

theorem StopsAfter.suffix {p s : List Char} {stop : Stop} (h : StopsAfter p s stop) :
    ∃ u, s = u ++ stop.rest := by
  cases h with
  | here => exact ⟨p, rfl⟩
  | malformed => exact ⟨_, rfl⟩

theorem StopsAfter.of_ne_malformedName {p s rest : List Char} {fault : Fault}
    (h : StopsAfter p s ⟨fault, rest⟩) (hfault : fault ≠ .malformedName) :
    s = p ++ rest ∧ Halts Text.isBlank rest := by
  cases h with
  | here _ hrest => exact ⟨rfl, hrest⟩
  | malformed => exact absurd rfl hfault

theorem StopsAfter.of_malformedName {p s rest : List Char}
    (h : StopsAfter p s ⟨.malformedName, rest⟩) :
    ∃ run, s = p ++ run ++ rest ∧ IsMalformedRun p run rest := by
  cases h with
  | here hfault => exact absurd rfl hfault
  | malformed hrun => exact ⟨_, rfl, hrun⟩

theorem StopsAfter.append {p s : List Char} {stop : Stop} (h : StopsAfter p s stop) {u : List Char}
    (hu : ∀ c ∈ u.getLast?, isNameChar c = false) : StopsAfter (u ++ p) (u ++ s) stop := by
  cases h with
  | here hfault hrest =>
    rw [← List.append_assoc]
    exact .here hfault hrest
  | @malformed run rest hrun =>
    have hstarts : ∀ c ∈ (u ++ p).getLast?, isNameChar c = false := by
      intro c hc
      rw [List.getLast?_append] at hc
      cases hp : p.getLast? with
      | none => exact hu c (by simpa [hp] using hc)
      | some d => exact hrun.starts c (by simpa [hp] using hc)
    rw [← List.append_assoc, ← List.append_assoc]
    exact .malformed ⟨hrun.ne_nil, hrun.nameChars, hstarts, hrun.ends, hrun.stray⟩

theorem hasStrayDot_iff {n : List Char} : hasStrayDot n = true ↔
    n.head? = some '.' ∨ n.getLast? = some '.' ∨ ['.', '.'] <:+: n := by
  rw [← hasDoubledDot_iff]
  simp [hasStrayDot, or_assoc]

theorem not_isNameChar_getLast?_blanks {w : List Char} (hw : Blanks w) :
    ∀ c ∈ w.getLast?, isNameChar c = false := by
  intro c hc
  rw [← Bool.not_eq_true]
  intro hname
  have hblank := hw c (List.mem_of_getLast? hc)
  rw [isBlank_eq_false_of_isNameChar hname] at hblank
  cases hblank

theorem completes_blanks {w : List Char} (hw : Blanks w) : Completes w := by
  have hstar := Spells.intro hw (.inl rfl) .absent .absent
  exact ⟨['*'], _, by simpa using hstar⟩

theorem readName_eq_error {s : List Char} {stop : Stop} (h : readName s = .error stop) :
    ∃ w, Blanks w ∧ StopsAfter w s stop := by
  obtain ⟨w, hw, hs⟩ := exists_blanks_append_skipBlanks s
  refine ⟨w, hw, ?_⟩
  unfold readName at h
  split at h
  · cases h
  · split at h
    · cases h
      have hstop : StopsAfter w (w ++ skipBlanks s) ⟨.missingName, skipBlanks s⟩ :=
        .here (by decide) (Text.halts_dropWhile Text.isBlank s)
      rwa [← hs] at hstop
    · next run r hrun =>
      obtain ⟨hne, hall, hends, hsplit⟩ := Text.takeRun_eq_some_iff.mp hrun
      split at h
      · next hstray =>
        cases h
        have hstop := StopsAfter.malformed (p := w) ⟨hne, hall, not_isNameChar_getLast?_blanks hw,
          hends, hasStrayDot_iff.mp hstray⟩
        rwa [List.append_assoc, ← hsplit, ← hs] at hstop
      · cases h

/-! What is read before a fault goes in front of the completion of what is read up to it. -/

theorem Completes.of_args {w n v u : List Char} (hw : Blanks w) (hn : IsName n) (hv : Blanks v)
    (hu : CompletesArgs u) : Completes (w ++ n ++ v ++ ['<'] ++ u) := by
  obtain ⟨q, ts, ha⟩ := hu
  have ht := Spells.intro hw hn (.bracketed hv ha) .absent
  exact ⟨q, _, by simpa using ht⟩

theorem CompletesArgs.of_type {u : List Char} (hu : Completes u) : CompletesArgs u := by
  obtain ⟨q, t, ht⟩ := hu
  have ha := SpellsItems.last ht (w := []) nofun
  exact ⟨q ++ ['>'], _, by simpa using ha⟩

theorem CompletesArgs.of_next {s w u : List Char} {t : TypeExpr} (ht : Spells s t) (hw : Blanks w)
    (hu : CompletesArgs u) : CompletesArgs (s ++ w ++ [','] ++ u) := by
  obtain ⟨q, ts, ha⟩ := hu
  exact ⟨q, _, by simpa using SpellsItems.next ht hw ha⟩

theorem CompletesArgs.of_last {s w : List Char} {t : TypeExpr} (ht : Spells s t) (hw : Blanks w) :
    CompletesArgs (s ++ w) := ⟨['>'], _, SpellsItems.last ht hw⟩

theorem isNameChar_getLast?_mark {m : Char} (hm : m ∈ marks) (u : List Char) :
    ∀ c ∈ (u ++ [m]).getLast?, isNameChar c = false := by
  intro c hc
  rw [List.getLast?_concat] at hc
  obtain rfl : m = c := Option.some.inj hc
  exact isNameChar_eq_false_of_mem_marks hm

mutual
theorem FailsType.completes {s : List Char} {stop : Stop} :
    FailsType s stop → ∃ p, StopsAfter p s stop ∧ Completes p
  | .name hname => by
    obtain ⟨w, hw, hstop⟩ := readName_eq_error hname
    exact ⟨w, hstop, completes_blanks hw⟩
  | .args hname hopen hargs => by
    obtain ⟨w, n, hs, hw, hn, rfl⟩ := readName_eq_ok hname
    obtain ⟨v, hv, hsv⟩ := (accept_eq_some_iff (by decide)).mp hopen
    obtain ⟨p, hstop, hp⟩ := hargs.completes
    refine ⟨w ++ n ++ v ++ ['<'] ++ p, ?_, .of_args hw hn hv hp⟩
    have happend := hstop.append (isNameChar_getLast?_mark (m := '<') (by decide) (w ++ n ++ v))
    simpa [hs, hsv] using happend

theorem FailsArgs.completes {s : List Char} {stop : Stop} :
    FailsArgs s stop → ∃ p, StopsAfter p s stop ∧ CompletesArgs p
  | .first htype => by
    obtain ⟨p, hstop, hp⟩ := htype.completes
    exact ⟨p, hstop, .of_type hp⟩
  | .later htype hcomma hargs => by
    obtain ⟨u, hs, hu⟩ := htype.spells
    obtain ⟨w, hw, hsw⟩ := (accept_eq_some_iff (by decide)).mp hcomma
    obtain ⟨p, hstop, hp⟩ := hargs.completes
    refine ⟨u ++ w ++ [','] ++ p, ?_, .of_next hu hw hp⟩
    have happend := hstop.append (isNameChar_getLast?_mark (m := ',') (by decide) (u ++ w))
    simpa [hs, hsw] using happend
  | .unclosed (r := r) htype _ _ => by
    obtain ⟨u, hs, hu⟩ := htype.spells
    obtain ⟨w, hw, hsw⟩ := exists_blanks_append_skipBlanks r
    refine ⟨u ++ w, ?_, .of_last hu hw⟩
    have hstop : StopsAfter (u ++ w) (u ++ w ++ skipBlanks r) ⟨.unclosedArguments, skipBlanks r⟩ :=
      .here (by decide) (Text.halts_dropWhile Text.isBlank r)
    rw [List.append_assoc, ← hsw] at hstop
    simpa [hs] using hstop
end

end StateHolders.TypeExpr
