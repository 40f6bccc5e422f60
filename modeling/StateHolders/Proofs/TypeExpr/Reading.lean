import StateHolders.Proofs.Except
import StateHolders.Proofs.TypeExpr.Grammar
import StateHolders.Proofs.TypeExpr.Run

/-! The reader against the grammar. What it takes off a text spells the type it answers with, and a
text that spells a type is read to its end where no longer text could be meant. -/

namespace StateHolders.TypeExpr

open Text (Blanks Halts Rest skipBlanks)

def nextChar (s : List Char) : Option Char := (skipBlanks s).head?

theorem skipBlanks_append {w s : List Char} (hw : Blanks w) :
    skipBlanks (w ++ s) = skipBlanks s := List.dropWhile_append_of_pos hw

theorem nextChar_append {w s : List Char} {c : Char} (hw : Blanks w)
    (hc : Text.isBlank c = false) : nextChar (w ++ c :: s) = some c := by
  rw [nextChar, skipBlanks_append hw, skipBlanks, List.dropWhile_cons_of_neg (by simp [hc])]
  rfl

theorem exists_blanks_append_skipBlanks (s : List Char) :
    ∃ w, Blanks w ∧ s = w ++ skipBlanks s :=
  ⟨s.takeWhile Text.isBlank, Text.mem_takeWhile, List.takeWhile_append_dropWhile.symm⟩

theorem halts_of_nextChar {s : List Char} (h : ∀ c ∈ nextChar s, isNameChar c = false) :
    Halts isNameChar s := by
  intro c hc
  cases s with
  | nil => cases hc
  | cons d s =>
    obtain rfl : d = c := Option.some.inj hc
    cases hname : isNameChar d with
    | false => rfl
    | true =>
      have hnext := nextChar_append (w := []) (s := s) (by simp [Blanks])
        (isBlank_eq_false_of_isNameChar hname)
      rw [h d hnext] at hname
      cases hname

/-! One lemma for each reader: what it accepts, and what it leaves. -/

theorem accept_eq_some_iff {c : Char} (hc : c ∈ marks) {s : List Char} {r : Rest s} :
    accept c s = some r ↔ ∃ w, Blanks w ∧ s = w ++ c :: r.1 :=
  Text.accept_eq_some_iff (isBlank_eq_false_of_mem_marks hc)

theorem accept_of_eq {c : Char} (hc : c ∈ marks) {s w r : List Char} (hs : s = w ++ c :: r)
    (hw : Blanks w) : ∃ h, accept c s = some ⟨r, h⟩ := by
  have h : r.length < s.length := by
    rw [hs, List.length_append, List.length_cons]
    omega
  exact ⟨h, (accept_eq_some_iff hc).mpr ⟨w, hw, hs⟩⟩

theorem accept_append {c : Char} (hc : c ∈ marks) {w : List Char} (hw : Blanks w) (r : List Char) :
    ∃ h, accept c (w ++ c :: r) = some ⟨r, h⟩ := accept_of_eq hc rfl hw

theorem accept_eq_none {c : Char} (hc : c ∈ marks) {s : List Char} (h : nextChar s ≠ some c) :
    accept c s = none := by
  apply Option.eq_none_iff_forall_ne_some.mpr
  intro r hr
  obtain ⟨w, hw, hs⟩ := (accept_eq_some_iff hc).mp hr
  exact h (hs ▸ nextChar_append hw (isBlank_eq_false_of_mem_marks hc))

theorem readName_eq_ok {s : List Char} {name : String} {r : Rest s}
    (h : readName s = .ok (name, r)) :
    ∃ w n, s = w ++ n ++ r.1 ∧ Blanks w ∧ IsName n ∧ name = String.ofList n := by
  unfold readName at h
  split at h
  · next r' hstar =>
    obtain ⟨w, hw, hs⟩ := (accept_eq_some_iff (by decide)).mp hstar
    obtain ⟨hname, hr⟩ := Prod.mk.inj (Except.ok.inj h)
    subst hname hr
    exact ⟨w, ['*'], by simpa using hs, hw, .inl rfl, rfl⟩
  · split at h
    · cases h
    · next n r' hrun =>
      obtain ⟨hne, hall, -, hs⟩ := Text.takeRun_eq_some_iff.mp hrun
      split at h
      · cases h
      · next hdot =>
        obtain ⟨hname, hr⟩ := Prod.mk.inj (Except.ok.inj h)
        subst hname hr
        obtain ⟨w, hw, hws⟩ := exists_blanks_append_skipBlanks s
        refine ⟨w, n, ?_, hw, isName_iff.mpr (.inr ⟨hne, hall, by simpa using hdot⟩), rfl⟩
        rw [hs] at hws
        simpa only [List.append_assoc, afterName] using hws

theorem readName_of_eq {s w n r : List Char} (hs : s = w ++ n ++ r) (hw : Blanks w)
    (hn : IsName n) (hr : Halts isNameChar r) :
    ∃ h, readName s = .ok (String.ofList n, ⟨r, h⟩) := by
  rw [List.append_assoc] at hs
  rcases isName_iff.mp hn with rfl | ⟨hne, hall, hdot⟩
  · obtain ⟨h, hstar⟩ := accept_of_eq (c := '*') (by decide) hs hw
    refine ⟨h, ?_⟩
    simp only [readName, hstar]
    rfl
  · obtain ⟨c, u, rfl⟩ := List.exists_cons_of_ne_nil hne
    have hc : isNameChar c = true := hall c List.mem_cons_self
    have hskip : skipBlanks s = c :: u ++ r := by
      rw [hs, skipBlanks_append hw]
      exact List.dropWhile_cons_of_neg (by simp [isBlank_eq_false_of_isNameChar hc])
    have hstar : accept '*' s = none := by
      apply accept_eq_none (by decide)
      rw [nextChar, hskip]
      rintro hcs
      obtain rfl : c = '*' := Option.some.inj hcs
      simp [isNameChar_eq_false_of_mem_marks (c := '*') (by decide)] at hc
    have hlen : r.length < (skipBlanks s).length := by
      rw [hskip, List.length_append, List.length_cons]
      omega
    have hrun : Text.takeRun isNameChar (skipBlanks s) = some (c :: u, ⟨r, hlen⟩) :=
      Text.takeRun_eq_some_iff.mpr ⟨hne, hall, hr, hskip⟩
    refine ⟨Nat.lt_of_lt_of_le hlen (Text.length_skipBlanks_le s), ?_⟩
    simp [readName, hstar, hrun, hdot, afterName]

/-- What may follow a type inside a longer text, or nothing but blanks. -/
def Closes (s : List Char) : Prop := ∀ c ∈ nextChar s, c = ',' ∨ c = '>'

theorem readNullable_eq {name : String} {args : List TypeExpr} {s : List Char} {t : TypeExpr}
    {r : Text.Remainder s} (h : readNullable name args s = (t, r)) :
    ∃ m nullable, s = m ++ r.1 ∧ SpellsMark m nullable ∧ t = ⟨name, args, nullable⟩ := by
  unfold readNullable at h
  split at h
  · next r' hmark =>
    obtain ⟨w, hw, hs⟩ := (accept_eq_some_iff (by decide)).mp hmark
    obtain ⟨ht, hr⟩ := Prod.mk.inj h
    subst ht hr
    exact ⟨w ++ ['?'], true, by simpa [Rest.remainder] using hs, .present hw, rfl⟩
  · obtain ⟨ht, hr⟩ := Prod.mk.inj h
    subst ht hr
    exact ⟨[], false, rfl, .absent, rfl⟩

theorem readNullable_of_eq {s m r : List Char} {nullable : Bool} (hs : s = m ++ r)
    (hm : SpellsMark m nullable) (hr : Closes r) (name : String) (args : List TypeExpr) :
    ∃ h, readNullable name args s = (⟨name, args, nullable⟩, ⟨r, h⟩) := by
  cases hm with
  | absent =>
    have hmark : accept '?' s = none := by
      apply accept_eq_none (by decide)
      rw [hs]
      intro hc
      rcases hr '?' hc with h | h <;> cases h
    obtain rfl : s = r := hs
    refine ⟨Nat.le_refl _, ?_⟩
    simp [readNullable, hmark, Text.Remainder.all]
  | present hw =>
    obtain ⟨h, hmark⟩ := accept_of_eq (c := '?') (by decide) (by simpa using hs) hw
    refine ⟨Nat.le_of_lt h, ?_⟩
    simp [readNullable, hmark, Rest.remainder]

mutual
theorem ReadsType.spells {s r : List Char} {t : TypeExpr} :
    ReadsType s t r → ∃ u, s = u ++ r ∧ Spells u t
  | .plain hname _ hmark => by
    obtain ⟨w, n, hs, hw, hn, rfl⟩ := readName_eq_ok hname
    obtain ⟨m, nullable, hsm, hm, rfl⟩ := readNullable_eq hmark
    exact ⟨w ++ n ++ [] ++ m, by simpa [hsm] using hs, .intro hw hn .absent hm⟩
  | .applied hname hopen hargs hmark => by
    obtain ⟨w, n, hs, hw, hn, rfl⟩ := readName_eq_ok hname
    obtain ⟨w', hw', hsw⟩ := (accept_eq_some_iff (by decide)).mp hopen
    obtain ⟨a, hsa, ha⟩ := hargs.spells
    obtain ⟨m, nullable, hsm, hm, rfl⟩ := readNullable_eq hmark
    refine ⟨w ++ n ++ (w' ++ '<' :: a) ++ m, ?_, .intro hw hn (.bracketed hw' ha) hm⟩
    simpa [hsw, hsa, hsm] using hs

theorem ReadsArgs.spells {s r : List Char} {ts : List TypeExpr} :
    ReadsArgs s ts r → ∃ u, s = u ++ r ∧ SpellsItems u ts
  | .last htype _ hclose => by
    obtain ⟨u, hs, hu⟩ := htype.spells
    obtain ⟨w, hw, hsw⟩ := (accept_eq_some_iff (by decide)).mp hclose
    exact ⟨u ++ w ++ ['>'], by simpa [hsw] using hs, .last hu hw⟩
  | .next htype hcomma hargs => by
    obtain ⟨u, hs, hu⟩ := htype.spells
    obtain ⟨w, hw, hsw⟩ := (accept_eq_some_iff (by decide)).mp hcomma
    obtain ⟨a, hsa, ha⟩ := hargs.spells
    exact ⟨u ++ w ++ ',' :: a, by simpa [hsw, hsa] using hs, .next hu hw ha⟩
end

theorem skipBlanks_blanks {w : List Char} (hw : Blanks w) : skipBlanks w = [] := by
  simpa [skipBlanks] using skipBlanks_append (s := []) hw

theorem closes_blanks {w : List Char} (hw : Blanks w) : Closes w := by
  intro c hc
  simp [nextChar, skipBlanks_blanks hw] at hc

theorem closes_append {w r : List Char} {c : Char} (hw : Blanks w) (hc : c = ',' ∨ c = '>') :
    Closes (w ++ c :: r) := by
  have hb : Text.isBlank c = false := by rcases hc with rfl | rfl <;> decide
  intro d hd
  rw [nextChar_append hw hb] at hd
  cases hd
  exact hc

theorem nextChar_mark {m r : List Char} {nullable : Bool} (hm : SpellsMark m nullable)
    (hr : Closes r) : ∀ c ∈ nextChar (m ++ r), c ∈ ['?', ',', '>'] := by
  intro c hc
  cases hm with
  | absent => rcases hr c hc with rfl | rfl <;> decide
  | present hw =>
    rw [List.append_assoc, List.singleton_append, nextChar_append hw (by decide)] at hc
    cases hc
    decide

mutual
theorem Spells.readsType {u : List Char} {t : TypeExpr} : Spells u t → ∀ s r, s = u ++ r →
    Closes r → ReadsType s t r
  | @Spells.intro _ n _ m args _ hw hn ha hm, s, r, hs, hr => by
    have hnext := nextChar_mark hm hr
    -- in both cases a mark or the end comes after the name, so the run of its characters halts
    rcases ha.brackets with ⟨rfl, rfl⟩ | ⟨v, b, rfl, hv, hread⟩
    · have hhalt : Halts isNameChar (m ++ r) :=
        halts_of_nextChar fun c hc =>
          isNameChar_eq_false_of_mem_marks (List.subset_def.mp (by decide) (hnext c hc))
      obtain ⟨_, hname⟩ := readName_of_eq (r := m ++ r) (by simpa using hs) hw hn hhalt
      have hopen : accept '<' (m ++ r) = none :=
        accept_eq_none (by decide) fun hc => by simpa using hnext '<' hc
      obtain ⟨_, hmark⟩ := readNullable_of_eq rfl hm hr (String.ofList n) []
      exact .plain hname hopen hmark
    · have hhalt : Halts isNameChar (v ++ '<' :: (b ++ (m ++ r))) := by
        apply halts_of_nextChar
        rw [nextChar_append hv (by decide)]
        rintro c ⟨⟩
        exact isNameChar_eq_false_of_mem_marks (c := '<') (by decide)
      obtain ⟨_, hname⟩ := readName_of_eq (by simpa using hs) hw hn hhalt
      obtain ⟨_, hopen⟩ := accept_append (c := '<') (by decide) hv (b ++ (m ++ r))
      obtain ⟨_, hmark⟩ := readNullable_of_eq rfl hm hr (String.ofList n) args
      exact .applied hname hopen (hread _ (m ++ r) rfl) hmark

theorem SpellsArgs.brackets {a : List Char} {ts : List TypeExpr} : SpellsArgs a ts →
    (a = [] ∧ ts = []) ∨ ∃ v b, a = v ++ '<' :: b ∧ Blanks v ∧ ∀ s r, s = b ++ r → ReadsArgs s ts r
  | .absent => .inl ⟨rfl, rfl⟩
  | .bracketed hv hb => .inr ⟨_, _, rfl, hv, hb.readsArgs⟩

theorem SpellsItems.readsArgs {a : List Char} {ts : List TypeExpr} : SpellsItems a ts →
    ∀ s r, s = a ++ r → ReadsArgs s ts r
  | .last (w := w) ht hw, s, r, hs => by
    have htype := ht.readsType s (w ++ '>' :: r) (by simpa using hs) (closes_append hw (.inr rfl))
    have hcomma : accept ',' (w ++ '>' :: r) = none := by
      apply accept_eq_none (by decide)
      rw [nextChar_append hw (by decide)]
      decide
    obtain ⟨_, hclose⟩ := accept_append (c := '>') (by decide) hw r
    exact .last htype hcomma hclose
  | .next (w := w) (a := a) ht hw ha, s, r, hs => by
    have htype := ht.readsType s (w ++ ',' :: (a ++ r)) (by simpa using hs) (closes_append hw (.inl rfl))
    obtain ⟨_, hcomma⟩ := accept_append (c := ',') (by decide) hw (a ++ r)
    exact .next htype hcomma (ha.readsArgs _ r rfl)
end

theorem readAll_eq_ok_iff {s : List Char} {t : TypeExpr} :
    readAll s = .ok t ↔ SpellsWhole s t := by
  constructor
  · intro h
    unfold readAll at h
    split at h
    · cases h
    · next t' r htype =>
      obtain ⟨u, hs, hu⟩ := (readsType_of_eq htype).spells
      obtain ⟨w, hw, hr⟩ := exists_blanks_append_skipBlanks r.1
      split at h
      · next hnil =>
        cases h
        rw [hnil, List.append_nil] at hr
        exact ⟨u, w, by rw [← hr]; exact hs, hu, hw⟩
      · cases h
  · rintro ⟨u, w, hs, hu, hw⟩
    obtain ⟨_, htype⟩ := (hu.readsType s w hs (closes_blanks hw)).eq_ok
    simp [readAll, htype, skipBlanks_blanks hw]

theorem parse_eq_ok_iff {text : String} {t : TypeExpr} :
    parse text = .ok t ↔ SpellsWhole text.toList t := by
  rw [← readAll_eq_ok_iff, parse, mapError_eq_ok_iff]

/-- The texts that are read are those that spell a type, and each of them spells one type. -/
theorem parse_exact :
    (∀ (text : String) (t : TypeExpr), parse text = .ok t ↔ SpellsWhole text.toList t) ∧
      ∀ (s : List Char) (t t' : TypeExpr), SpellsWhole s t → SpellsWhole s t' → t = t' := by
  refine ⟨fun text t => parse_eq_ok_iff, fun s t t' h h' => ?_⟩
  have hread := readAll_eq_ok_iff.mpr h
  rw [readAll_eq_ok_iff.mpr h'] at hread
  exact (Except.ok.inj hread).symm

end StateHolders.TypeExpr
