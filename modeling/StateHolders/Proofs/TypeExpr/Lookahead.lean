import StateHolders.Proofs.TypeExpr.Completion

/-! How far the readers look. A reader that stops in front of a character that is no blank has not looked at what
comes after that character, so with any other text after it the reader does the same. -/

namespace StateHolders.TypeExpr

open Text (Blanks Halts Rest Remainder skipBlanks)

variable {c : Char} {v v' r r' : List Char}

theorem nextChar_append_cons (hc : Text.isBlank c = false) (v r r' : List Char) :
    nextChar (v ++ c :: r) = nextChar (v ++ c :: r') := by
  obtain ⟨w, hw, hv⟩ := exists_blanks_append_skipBlanks v
  rw [hv, List.append_assoc, List.append_assoc, nextChar, nextChar, skipBlanks_append hw,
    skipBlanks_append hw]
  cases hskip : skipBlanks v with
  | nil => simp [skipBlanks, hc]
  | cons d u =>
    have hd : Text.isBlank d = false := Text.halts_dropWhile Text.isBlank v d (by
      rw [← skipBlanks, hskip]
      rfl)
    simp [skipBlanks, hd]

theorem skipBlanks_append_cons {w : List Char} (hw : Blanks w) (hc : Text.isBlank c = false) :
    skipBlanks (w ++ c :: r) = c :: r := by
  rw [skipBlanks_append hw]
  exact List.dropWhile_cons_of_neg (by simp [hc])

theorem halts_append_cons {p : Char → Bool} (h : Halts p (v ++ c :: r)) (r' : List Char) :
    Halts p (v ++ c :: r') := by
  cases v with
  | nil => exact h
  | cons d v => exact h

/-! One lemma for each reader: what it does in front of the character, it does whatever follows. -/

theorem accept_eq_none_iff {m : Char} (hm : m ∈ marks) {s : List Char} :
    accept m s = none ↔ nextChar s ≠ some m := by
  refine ⟨fun h hnext => ?_, accept_eq_none hm⟩
  obtain ⟨r, hr⟩ := List.head?_eq_some_iff.mp hnext
  obtain ⟨w, hw, hs⟩ := exists_blanks_append_skipBlanks s
  rw [hr] at hs
  obtain ⟨_, hsome⟩ := accept_of_eq hm hs hw
  rw [h] at hsome
  cases hsome

theorem accept_none_lookahead {m : Char} (hm : m ∈ marks) (hc : Text.isBlank c = false)
    (h : accept m (v ++ c :: r) = none) (r' : List Char) : accept m (v ++ c :: r') = none := by
  rw [accept_eq_none_iff hm, nextChar_append_cons hc v r' r, ← accept_eq_none_iff hm]
  exact h

theorem accept_some_lookahead {m : Char} (hm : m ∈ marks) {hlt}
    (h : accept m (v ++ c :: r) = some ⟨v' ++ c :: r, hlt⟩) (r' : List Char) :
    ∃ hlt', accept m (v ++ c :: r') = some ⟨v' ++ c :: r', hlt'⟩ := by
  obtain ⟨w, hw, hs⟩ := (accept_eq_some_iff hm).mp h
  have hv : v = w ++ m :: v' := List.append_cancel_right (hs.trans (by simp))
  exact accept_of_eq hm (by simp [hv]) hw

theorem readName_ok_lookahead {name : String} {hlt}
    (h : readName (v ++ c :: r) = .ok (name, ⟨v' ++ c :: r, hlt⟩)) (r' : List Char) :
    ∃ hlt', readName (v ++ c :: r') = .ok (name, ⟨v' ++ c :: r', hlt'⟩) := by
  unfold readName at h
  split at h
  · next rest hstar =>
    cases h
    obtain ⟨hlt', hstar'⟩ := accept_some_lookahead (by decide) hstar r'
    exact ⟨hlt', by simp only [readName, hstar']⟩
  · split at h
    · cases h
    · next n rest hrun =>
      obtain ⟨hne, hall, hends, hsplit⟩ := Text.takeRun_eq_some_iff.mp hrun
      split at h
      · cases h
      · next hdot =>
        obtain ⟨rfl, hrest⟩ := Prod.mk.inj (Except.ok.inj h)
        replace hrest : rest.1 = v' ++ c :: r := congrArg Subtype.val hrest
        rw [hrest] at hends hsplit
        obtain ⟨w, hw, hs⟩ := exists_blanks_append_skipBlanks (v ++ c :: r)
        rw [hsplit] at hs
        have hv : v = w ++ n ++ v' := List.append_cancel_right (hs.trans (by simp))
        exact readName_of_eq (by simp [hv]) hw (isName_iff.mpr (.inr ⟨hne, hall, by simpa using hdot⟩))
          (halts_append_cons hends r')

theorem readName_of_halts {s : List Char} (hstar : accept '*' s = none)
    (h : Halts isNameChar (skipBlanks s)) : readName s = .error ⟨.missingName, skipBlanks s⟩ := by
  simp only [readName, hstar, Text.takeRun_eq_none_iff.mpr h]

theorem readName_error_lookahead {fault : Fault} (hfault : fault ≠ .malformedName)
    (hc : Text.isBlank c = false) (h : readName (v ++ c :: r) = .error ⟨fault, c :: r⟩)
    (r' : List Char) : readName (v ++ c :: r') = .error ⟨fault, c :: r'⟩ := by
  unfold readName at h
  split at h
  · cases h
  · next hstar =>
    have hstar' := accept_none_lookahead (by decide) hc hstar r'
    split at h
    · next hrun =>
      obtain ⟨rfl, hskip⟩ := Stop.mk.inj (Except.error.inj h)
      obtain ⟨w, hw, hs⟩ := exists_blanks_append_skipBlanks (v ++ c :: r)
      rw [hskip] at hs hrun
      obtain rfl : v = w := List.append_cancel_right hs
      have hskip' : skipBlanks (v ++ c :: r') = c :: r' := skipBlanks_append_cons hw hc
      have hhalts : Halts isNameChar (skipBlanks (v ++ c :: r')) := by
        rw [hskip']
        exact halts_append_cons (v := []) (Text.takeRun_eq_none_iff.mp hrun) r'
      rw [readName_of_halts hstar' hhalts, hskip']
    · split at h
      · exact absurd (Stop.mk.inj (Except.error.inj h)).1.symm hfault
      · cases h

theorem readNullable_lookahead {name : String} {args : List TypeExpr} {t : TypeExpr} {hle}
    (hc : Text.isBlank c = false)
    (h : readNullable name args (v ++ c :: r) = (t, ⟨v' ++ c :: r, hle⟩)) (r' : List Char) :
    ∃ hle', readNullable name args (v ++ c :: r') = (t, ⟨v' ++ c :: r', hle'⟩) := by
  unfold readNullable at h
  split at h
  · next rest hmark =>
    obtain ⟨rfl, hrest⟩ := Prod.mk.inj h
    obtain ⟨rest, hlt⟩ := rest
    obtain rfl : rest = v' ++ c :: r := congrArg Subtype.val hrest
    obtain ⟨hlt', hmark'⟩ := accept_some_lookahead (by decide) hmark r'
    exact ⟨Nat.le_of_lt hlt', by simp [readNullable, hmark', Rest.remainder]⟩
  · next hmark =>
    obtain ⟨rfl, hrest⟩ := Prod.mk.inj h
    have hv : v = v' := List.append_cancel_right (congrArg Subtype.val hrest)
    subst hv
    have hmark' := accept_none_lookahead (by decide) hc hmark r'
    exact ⟨Nat.le_refl _, by simp [readNullable, hmark', Remainder.all]⟩

/-! What a reader leaves ends the text it read. -/

theorem accept_leaves {m : Char} (hm : m ∈ marks) {s e : List Char} {h}
    (hread : accept m s = some ⟨v' ++ e, h⟩) : ∃ v, s = v ++ e := by
  obtain ⟨w, -, hs⟩ := (accept_eq_some_iff hm).mp hread
  exact ⟨w ++ m :: v', by simpa using hs⟩

theorem readNullable_leaves {name : String} {args : List TypeExpr} {t : TypeExpr} {s e : List Char}
    {h} (hread : readNullable name args s = (t, ⟨v' ++ e, h⟩)) : ∃ v, s = v ++ e := by
  obtain ⟨m, nullable, hs, -⟩ := readNullable_eq hread
  exact ⟨m ++ v', by simpa using hs⟩

theorem ReadsArgs.leaves {s e : List Char} {ts : List TypeExpr} (h : ReadsArgs s ts (v' ++ e)) :
    ∃ v, s = v ++ e := by
  obtain ⟨u, hs, -⟩ := h.spells
  exact ⟨u ++ v', by simpa using hs⟩

theorem FailsArgs.leaves {s e : List Char} {fault : Fault} (h : FailsArgs s ⟨fault, e⟩) : ∃ v, s = v ++ e := by
  obtain ⟨p, hstop, -⟩ := h.completes
  exact hstop.suffix

/-! With another text after the character, the reader goes the same way. The character is in every text left on
the way, since each ends in what the last reader leaves. -/

mutual
theorem ReadsType.lookahead (hc : Text.isBlank c = false) (r r' : List Char) {s e : List Char}
    {t : TypeExpr} : ReadsType s t e → ∀ v v', s = v ++ c :: r → e = v' ++ c :: r →
      ReadsType (v ++ c :: r') t (v' ++ c :: r')
  | .plain hname hopen hmark, v, v', hs, he => by
    subst hs he
    obtain ⟨v₁, rfl⟩ := readNullable_leaves hmark
    obtain ⟨_, hname'⟩ := readName_ok_lookahead hname r'
    obtain ⟨_, hmark'⟩ := readNullable_lookahead hc hmark r'
    exact .plain hname' (accept_none_lookahead (by decide) hc hopen r') hmark'
  | .applied hname hopen hargs hmark, v, v', hs, he => by
    -- taken before the texts are split, where it is seen that the arguments are a part
    have ih := hargs.lookahead hc r r'
    subst hs he
    obtain ⟨v₃, rfl⟩ := readNullable_leaves hmark
    obtain ⟨v₂, rfl⟩ := hargs.leaves
    obtain ⟨v₁, rfl⟩ := accept_leaves (m := '<') (by decide) hopen
    obtain ⟨_, hname'⟩ := readName_ok_lookahead hname r'
    obtain ⟨_, hopen'⟩ := accept_some_lookahead (by decide) hopen r'
    obtain ⟨_, hmark'⟩ := readNullable_lookahead hc hmark r'
    exact .applied hname' hopen' (ih v₂ v₃ rfl rfl) hmark'

theorem ReadsArgs.lookahead (hc : Text.isBlank c = false) (r r' : List Char) {s e : List Char}
    {ts : List TypeExpr} : ReadsArgs s ts e → ∀ v v', s = v ++ c :: r → e = v' ++ c :: r →
      ReadsArgs (v ++ c :: r') ts (v' ++ c :: r')
  | .last htype hcomma hclose, v, v', hs, he => by
    have ih := htype.lookahead hc r r' v
    subst hs he
    obtain ⟨v₁, rfl⟩ := accept_leaves (m := '>') (by decide) hclose
    obtain ⟨_, hclose'⟩ := accept_some_lookahead (by decide) hclose r'
    exact .last (ih v₁ rfl rfl) (accept_none_lookahead (by decide) hc hcomma r') hclose'
  | .next htype hcomma hargs, v, v', hs, he => by
    have iht := htype.lookahead hc r r' v
    have ih := hargs.lookahead hc r r'
    subst hs he
    obtain ⟨v₂, rfl⟩ := hargs.leaves
    obtain ⟨v₁, rfl⟩ := accept_leaves (m := ',') (by decide) hcomma
    obtain ⟨_, hcomma'⟩ := accept_some_lookahead (by decide) hcomma r'
    exact .next (iht v₁ rfl rfl) hcomma' (ih v₂ v' rfl rfl)
end

mutual
theorem FailsType.lookahead (hc : Text.isBlank c = false) (r r' : List Char) {fault : Fault}
    (hfault : fault ≠ .malformedName) {s : List Char} {stop : Stop} : FailsType s stop → ∀ v,
      s = v ++ c :: r → stop = ⟨fault, c :: r⟩ → FailsType (v ++ c :: r') ⟨fault, c :: r'⟩
  | .name hname, v, hs, hstop => by
    subst hs hstop
    exact .name (readName_error_lookahead hfault hc hname r')
  | .args hname hopen hargs, v, hs, hstop => by
    have ih := hargs.lookahead hc r r' hfault
    subst hs hstop
    obtain ⟨v₂, rfl⟩ := hargs.leaves
    obtain ⟨v₁, rfl⟩ := accept_leaves (m := '<') (by decide) hopen
    obtain ⟨_, hname'⟩ := readName_ok_lookahead hname r'
    obtain ⟨_, hopen'⟩ := accept_some_lookahead (by decide) hopen r'
    exact .args hname' hopen' (ih v₂ rfl rfl)

theorem FailsArgs.lookahead (hc : Text.isBlank c = false) (r r' : List Char) {fault : Fault}
    (hfault : fault ≠ .malformedName) {s : List Char} {stop : Stop} : FailsArgs s stop → ∀ v,
      s = v ++ c :: r → stop = ⟨fault, c :: r⟩ → FailsArgs (v ++ c :: r') ⟨fault, c :: r'⟩
  | .first htype, v, hs, hstop => .first (htype.lookahead hc r r' hfault v hs hstop)
  | .later htype hcomma hargs, v, hs, hstop => by
    have ih := hargs.lookahead hc r r' hfault
    subst hs hstop
    obtain ⟨v₂, rfl⟩ := hargs.leaves
    obtain ⟨v₁, rfl⟩ := accept_leaves (m := ',') (by decide) hcomma
    obtain ⟨_, hcomma'⟩ := accept_some_lookahead (by decide) hcomma r'
    exact .later (htype.lookahead hc r r' v v₁ rfl rfl) hcomma' (ih v₂ rfl rfl)
  | .unclosed (r := e) htype hcomma hclose, v, hs, hstop => by
    obtain ⟨rfl, hskip⟩ := Stop.mk.inj hstop
    obtain ⟨w, hw, he⟩ := exists_blanks_append_skipBlanks e
    rw [hskip] at he
    subst hs he
    have hunclosed := FailsArgs.unclosed (htype.lookahead hc r r' v w rfl rfl)
      (accept_none_lookahead (by decide) hc hcomma r') (accept_none_lookahead (by decide) hc hclose r')
    rwa [skipBlanks_append_cons hw hc] at hunclosed
end

theorem readAll_error_lookahead (hc : Text.isBlank c = false) {fault : Fault}
    (hfault : fault ≠ .malformedName) (h : readAll (v ++ c :: r) = .error ⟨fault, c :: r⟩)
    (r' : List Char) : readAll (v ++ c :: r') = .error ⟨fault, c :: r'⟩ := by
  unfold readAll at h
  split at h
  · next stop htype =>
    cases h
    rw [readAll, ((failsType_of_eq htype).lookahead hc r r' hfault v rfl rfl).eq_error]
  · next t rest htype =>
    obtain ⟨w, hw, hrest⟩ := exists_blanks_append_skipBlanks rest.1
    split at h
    · cases h
    · obtain ⟨rfl, hskip⟩ := Stop.mk.inj (Except.error.inj h)
      obtain ⟨rest, hlt⟩ := rest
      rw [hskip] at hrest
      subst hrest
      obtain ⟨_, htype'⟩ := ((readsType_of_eq htype).lookahead hc r r' v w rfl rfl).eq_ok
      simp only [readAll, htype', skipBlanks_append_cons hw hc]

end StateHolders.TypeExpr
