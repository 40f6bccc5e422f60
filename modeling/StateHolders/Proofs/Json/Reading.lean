import StateHolders.Json.Reader

/-! Text without space and escapes: what is written as strings and arrays of strings is read back. -/

namespace StateHolders.Json

variable {depth : Nat} {s r r' : List Char} {v : Json} {vs : List Json}

def Reads (depth : Nat) (s : List Char) (v : Json) (r : List Char) : Prop :=
  ∃ h, readValue depth s = some (v, ⟨r, h⟩)

def ReadsItems (depth : Nat) (s : List Char) (vs : List Json) (r : List Char) : Prop :=
  ∃ h, readItems depth s = some (vs, ⟨r, h⟩)

theorem accept_cons {c d : Char} (hd : isSpace d = false) (s : List Char) :
    accept c (d :: s) = if d = c then some ⟨s, Nat.lt_succ_self s.length⟩ else none := by
  have hdrop : (d :: s).dropWhile isSpace = d :: s := by simp [hd]
  rw [accept, Text.accept]
  split
  · next hnil => simp [hdrop] at hnil
  · next e r hcons =>
    rw [hdrop] at hcons
    cases hcons
    rfl

def IsPlain (c : Char) : Prop := c ≠ '"' ∧ c ≠ '\\' ∧ 0x20 ≤ c.toNat

instance (c : Char) : Decidable (IsPlain c) := inferInstanceAs (Decidable (_ ∧ _ ∧ _))

theorem readChars_plain (hs : ∀ c ∈ s, IsPlain c) (acc r : List Char) :
    ∃ h, readChars acc (s ++ '"' :: r) = some (String.ofList (acc.reverse ++ s), ⟨r, h⟩) := by
  induction s generalizing acc with
  | nil =>
    refine ⟨by simp, ?_⟩
    show readChars acc ('"' :: r) = _
    rw [readChars, List.append_nil]
  | cons c s ih =>
    obtain ⟨⟨hquote, hescape, hcontrol⟩, hs⟩ := List.forall_mem_cons.mp hs
    obtain ⟨hr, hread⟩ := ih hs (c :: acc)
    refine ⟨by simp; omega, ?_⟩
    show readChars acc (c :: (s ++ '"' :: r)) = _
    rw [readChars]
    · rw [if_neg (by omega), hread]
      simp
    · exact hquote
    · exact hescape

theorem readString_plain {text : String} (htext : ∀ c ∈ text.toList, IsPlain c) (r : List Char) :
    ∃ h, readString ('"' :: (text.toList ++ '"' :: r)) = some (text, ⟨r, h⟩) := by
  obtain ⟨hr, hread⟩ := readChars_plain htext [] r
  refine ⟨by simp; omega, ?_⟩
  simp [readString, accept_cons (by decide : isSpace '"' = false), hread]

theorem reads_string (text : String) (htext : ∀ c ∈ text.toList, IsPlain c) (r : List Char) :
    Reads depth ('"' :: (text.toList ++ '"' :: r)) (.string text) r := by
  obtain ⟨hr, hread⟩ := readString_plain htext r
  have hscalar : readScalar ('"' :: (text.toList ++ '"' :: r)) = some (.string text, ⟨r, hr⟩) := by
    simp [readScalar, hread]
  have hskip : readScalar (skipSpace ('"' :: (text.toList ++ '"' :: r))) =
      some (.string text, ⟨r, hr⟩) := hscalar
  refine ⟨by simp; omega, ?_⟩
  rw [readValue, accept_cons (by decide), if_neg (by decide)]
  simp only
  rw [accept_cons (by decide), if_neg (by decide)]
  simp only [hskip]

theorem reads_nil (r : List Char) : Reads (depth + 1) ('[' :: ']' :: r) (.array []) r := by
  refine ⟨by simp only [List.length_cons]; omega, ?_⟩
  rw [readValue, accept_cons (by decide), if_pos rfl]
  simp [accept_cons, isSpace]

theorem ReadsItems.reads {c : Char} (h : ReadsItems depth (c :: s) vs r) (hc : c ≠ ']')
    (hspace : isSpace c = false) : Reads (depth + 1) ('[' :: c :: s) (.array vs) r := by
  obtain ⟨hr, hread⟩ := h
  refine ⟨by simp at hr ⊢; omega, ?_⟩
  rw [readValue, accept_cons (by decide), if_pos rfl]
  simp [accept_cons hspace, hc, hread]

theorem Reads.last (h : Reads depth s v (']' :: r)) : ReadsItems depth s [v] r := by
  obtain ⟨hr, hread⟩ := h
  refine ⟨by simp at hr; omega, ?_⟩
  rw [readItems]
  simp [hread, accept_cons, isSpace]

theorem Reads.cons (h : Reads depth s v (',' :: r)) (hitems : ReadsItems depth r vs r') :
    ReadsItems depth s (v :: vs) r' := by
  obtain ⟨hr, hread⟩ := h
  obtain ⟨hr', hread'⟩ := hitems
  refine ⟨by simp at hr; omega, ?_⟩
  rw [readItems]
  simp [hread, hread', accept_cons, isSpace]

theorem Reads.parse? {text : String} (h : Reads maxDepth text.toList v []) :
    Json.parse? text = some v := by
  obtain ⟨hr, hread⟩ := h
  simp [Json.parse?, hread, skipSpace]

mutual
def compact : Json → List Char
  | .string text => '"' :: (text.toList ++ ['"'])
  | .array [] => ['[', ']']
  | .array (v :: vs) => '[' :: (compact v ++ compactLater vs)
  | _ => []

def compactLater : List Json → List Char
  | [] => [']']
  | v :: vs => ',' :: (compact v ++ compactLater vs)
end

mutual
def isCompact : Nat → Json → Bool
  | _, .string text => text.toList.all fun c => decide (IsPlain c)
  | depth + 1, .array vs => areCompact depth vs
  | _, _ => false

def areCompact : Nat → List Json → Bool
  | _, [] => true
  | depth, v :: vs => isCompact depth v && areCompact depth vs
end

theorem exists_compact_eq_cons (h : isCompact depth v = true) :
    ∃ c s, compact v = c :: s ∧ c ≠ ']' ∧ isSpace c = false := by
  cases v with
  | string text => exact ⟨_, _, by rw [compact], by decide, by decide⟩
  | array vs => cases vs <;> exact ⟨_, _, by rw [compact], by decide, by decide⟩
  | _ => simp [isCompact] at h

mutual
theorem reads_compact : ∀ {depth : Nat} {v : Json}, isCompact depth v = true → ∀ r,
    Reads depth (compact v ++ r) v r
  | _, .string text, h, r => by
    have htext : ∀ c ∈ text.toList, IsPlain c := by simpa [isCompact] using h
    simpa [compact] using reads_string text htext r
  | _ + 1, .array [], _, r => by simpa [compact] using reads_nil r
  | depth + 1, .array (v :: vs), h, r => by
    have hitems : isCompact depth v = true ∧ areCompact depth vs = true := by
      simpa [isCompact, areCompact] using h
    obtain ⟨c, s, hc, hbracket, hspace⟩ := exists_compact_eq_cons hitems.1
    have hreads := readsItems_compact hitems.1 hitems.2 r
    rw [hc] at hreads
    simpa [compact, hc] using hreads.reads hbracket hspace

theorem readsItems_compact : ∀ {depth : Nat} {v : Json} {vs : List Json}, isCompact depth v = true →
    areCompact depth vs = true → ∀ r,
    ReadsItems depth (compact v ++ (compactLater vs ++ r)) (v :: vs) r
  | depth, v, [], h, _, r => by
    simpa [compactLater] using (reads_compact h (']' :: r)).last
  | depth, v, w :: vs, h, hvs, r => by
    have hitems : isCompact depth w = true ∧ areCompact depth vs = true := by
      simpa [areCompact] using hvs
    have hlater := readsItems_compact hitems.1 hitems.2 r
    simpa [compactLater] using (reads_compact h _).cons hlater
end

theorem parse?_compact (h : isCompact maxDepth v = true) :
    parse? (String.ofList (compact v)) = some v := by
  have hreads := reads_compact h []
  rw [List.append_nil, ← String.toList_ofList (l := compact v)] at hreads
  exact hreads.parse?

end StateHolders.Json
