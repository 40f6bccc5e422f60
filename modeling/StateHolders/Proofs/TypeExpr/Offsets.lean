import StateHolders.Proofs.Text.Cut
import StateHolders.Proofs.TypeExpr.Lookahead

/-! Where errors point. In front of the offset stands the longest beginning of the text that some accepted text
has too, and if a name is malformed, such a beginning and the name. -/

namespace StateHolders.TypeExpr

open Text (Blanks skipBlanks)

/-- Some accepted text begins with this one. -/
def Extendable (p : String) : Prop := ∃ more t, parse (p ++ more) = .ok t

def Extends (p : List Char) : Prop := ∃ q t, SpellsWhole (p ++ q) t

theorem extendable_iff {p : String} : Extendable p ↔ Extends p.toList := by
  constructor
  · rintro ⟨more, t, h⟩
    exact ⟨more.toList, t, by simpa using parse_eq_ok_iff.mp h⟩
  · rintro ⟨q, t, h⟩
    exact ⟨String.ofList q, t, parse_eq_ok_iff.mpr (by simpa using h)⟩

theorem Completes.extends {p : List Char} (h : Completes p) : Extends p := by
  obtain ⟨q, t, ht⟩ := h
  exact ⟨q, t, p ++ q, [], (List.append_nil _).symm, ht, nofun⟩

theorem readAll_eq_error {s : List Char} {stop : Stop} (h : readAll s = .error stop) :
    ∃ p, StopsAfter p s stop ∧ Extends p := by
  unfold readAll at h
  split at h
  · next htype =>
    cases h
    obtain ⟨p, hstop, hp⟩ := (failsType_of_eq htype).completes
    exact ⟨p, hstop, hp.extends⟩
  · next t r htype =>
    obtain ⟨u, hs, hu⟩ := (readsType_of_eq htype).spells
    obtain ⟨w, hw, hr⟩ := exists_blanks_append_skipBlanks r.1
    split at h
    · cases h
    · cases h
      have hstop : StopsAfter (u ++ w) (u ++ w ++ skipBlanks r.1) ⟨.trailingText, skipBlanks r.1⟩ :=
        .here (by decide) (Text.halts_dropWhile Text.isBlank r.1)
      rw [List.append_assoc, ← hr, ← hs] at hstop
      exact ⟨u ++ w, hstop, [], t, u, w, List.append_nil _, hu, hw⟩

theorem isPrefix_or_of_append {p p' r r' : List Char} (h : p ++ r = p' ++ r') :
    p' <+: p ∨ ∃ c u v, r = c :: v ∧ p' = p ++ c :: u := by
  rcases List.append_eq_append_iff.mp h with ⟨u, rfl, rfl⟩ | ⟨u, rfl, -⟩
  · cases u with
    | nil => exact .inl (by simp)
    | cons c u => exact .inr ⟨c, u, u ++ r', rfl, rfl⟩
  · exact .inl (List.prefix_append _ _)

theorem longest_of_readAll_eq_error {p rest : List Char} {fault : Fault}
    (hfault : fault ≠ .malformedName) (h : readAll (p ++ rest) = .error ⟨fault, rest⟩) :
    Extends p ∧ ∀ p' rest', p ++ rest = p' ++ rest' → Extends p' → p' <+: p := by
  obtain ⟨q, hstop, hq⟩ := readAll_eq_error h
  obtain ⟨hsplit, hblank⟩ := hstop.of_ne_malformedName hfault
  obtain rfl := List.append_cancel_right hsplit
  refine ⟨hq, fun p' rest' hs hp' => ?_⟩
  rcases isPrefix_or_of_append hs with hprefix | ⟨c, u, v, rfl, rfl⟩
  · exact hprefix
  · obtain ⟨more, t, ht⟩ := hp'
    have hok := readAll_eq_ok_iff.mpr ht
    have herror := readAll_error_lookahead (hblank c rfl) hfault h (u ++ more)
    rw [List.append_assoc, List.cons_append, herror] at hok
    cases hok

theorem malformed_of_readAll_eq_error {p rest : List Char}
    (h : readAll (p ++ rest) = .error ⟨.malformedName, rest⟩) :
    ∃ before run, p = before ++ run ∧ Extends before ∧ IsMalformedRun before run rest := by
  obtain ⟨before, hstop, hbefore⟩ := readAll_eq_error h
  obtain ⟨run, hsplit, hrun⟩ := hstop.of_malformedName
  exact ⟨before, run, List.append_cancel_right hsplit, hbefore, hrun⟩

theorem utf8Length_eq (s : List Char) : Text.utf8Length s = (String.ofList s).utf8ByteSize := by
  induction s with
  | nil => rfl
  | cons c s ih =>
    have hcons : String.ofList (c :: s) = String.singleton c ++ String.ofList s :=
      String.toList_injective (by simp)
    rw [Text.utf8Length, ih, hcons, String.utf8ByteSize_append, String.utf8ByteSize_singleton]

theorem utf8Length_append (s r : List Char) :
    Text.utf8Length (s ++ r) = Text.utf8Length s + Text.utf8Length r := by
  simp [utf8Length_eq, String.ofList_append, String.utf8ByteSize_append]

theorem parse_eq_error {text : String} {e : SyntaxError} (h : parse text = .error e) :
    ∃ p rest, text.toList = p ++ rest ∧ readAll (p ++ rest) = .error ⟨e.fault, rest⟩ ∧
      e.input = text ∧ e.offset = (String.ofList p).utf8ByteSize := by
  rw [parse] at h
  cases hread : readAll text.toList with
  | ok t =>
    rw [hread] at h
    cases h
  | error stop =>
    rw [hread] at h
    cases h
    obtain ⟨q, hstop, -⟩ := readAll_eq_error hread
    obtain ⟨p, hp⟩ := hstop.suffix
    refine ⟨p, stop.rest, hp, by rw [← hp]; exact hread, rfl, ?_⟩
    dsimp only
    rw [hp, utf8Length_append, Nat.add_sub_cancel, utf8Length_eq]

/-- An error points behind a beginning of the text: the longest that can be extended to an accepted text, or,
if a name is malformed, one that ends in the run of name characters that makes it, with a beginning that can be
extended in front of the run. -/
theorem parse_error_offset {text : String} {e : SyntaxError} (h : parse text = .error e) :
    ∃ p rest, text = p ++ rest ∧ e.input = text ∧ e.offset = p.utf8ByteSize ∧
      (e.fault ≠ .malformedName → Extendable p ∧
        ∀ p' rest', text = p' ++ rest' → Extendable p' → p'.toList <+: p.toList) ∧
      (e.fault = .malformedName → ∃ before run, p = before ++ run ∧ Extendable before ∧
        IsMalformedRun before.toList run.toList rest.toList) := by
  obtain ⟨p, rest, htext, hread, hinput, hoffset⟩ := parse_eq_error h
  refine ⟨String.ofList p, String.ofList rest, String.toList_injective (by simpa using htext), hinput,
    hoffset, fun hfault => ?_, fun hfault => ?_⟩
  · obtain ⟨hp, hlongest⟩ := longest_of_readAll_eq_error hfault hread
    refine ⟨extendable_iff.mpr (by simpa using hp), fun p' rest' hp' hextendable => ?_⟩
    have hsplit : p ++ rest = p'.toList ++ rest'.toList := by rw [← htext, hp', String.toList_append]
    simpa using hlongest _ _ hsplit (extendable_iff.mp hextendable)
  · rw [hfault] at hread
    obtain ⟨before, run, rfl, hbefore, hrun⟩ := malformed_of_readAll_eq_error hread
    exact ⟨String.ofList before, String.ofList run, String.ofList_append,
      extendable_iff.mpr (by simpa using hbefore), by simpa using hrun⟩

theorem parse_error_offset_missing_and_malformed :
    parse "\u3000<" = .error ⟨"\u3000<", 3, .missingName⟩ ∧
      parse "\u3000." = .error ⟨"\u3000.", 4, .malformedName⟩ ∧
      (∃ p rest, "\u3000<" = p ++ rest ∧ 3 = p.utf8ByteSize ∧ Extendable p) ∧
      ∃ before run rest, "\u3000." = before ++ run ++ rest ∧ 4 = (before ++ run).utf8ByteSize ∧
        IsMalformedRun before.toList run.toList rest.toList := by
  have hmissing : parse "\u3000<" = .error ⟨"\u3000<", 3, .missingName⟩ := by
    have hname : readName "\u3000<".toList = .error ⟨.missingName, ['<']⟩ :=
      readName_of_halts (accept_eq_none (by decide) (by decide)) (Text.halts_cons (by decide +kernel))
    simp only [parse, readAll, readType, hname]
    rfl
  have hmalformed : parse "\u3000." = .error ⟨"\u3000.", 4, .malformedName⟩ := by
    have hrun : Text.takeRun isNameChar (skipBlanks "\u3000.".toList) = some (['.'], ⟨[], by decide⟩) :=
      Text.takeRun_eq_some_iff.mpr ⟨by decide, by simp [isNameChar], by simp [Text.Halts], rfl⟩
    simp only [parse, readAll, readType, readName, hrun]
    rfl
  refine ⟨hmissing, hmalformed, ?_, ?_⟩
  · obtain ⟨p, rest, htext, -, hoffset, hlongest, -⟩ := parse_error_offset hmissing
    exact ⟨p, rest, htext, hoffset, (hlongest (by decide)).1⟩
  · obtain ⟨p, rest, htext, -, hoffset, -, hrun⟩ := parse_error_offset hmalformed
    obtain ⟨before, run, rfl, -, hrun⟩ := hrun rfl
    exact ⟨before, run, rest, htext, hoffset, hrun⟩

end StateHolders.TypeExpr
