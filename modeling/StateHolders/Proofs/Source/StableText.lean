import StateHolders.Proofs.Source.Lines

/-! Stable texts. What is taken off a text is one stamp at its end, or nothing, and a generated text has no
stamp but the one that it has been given, whatever the names, keys and defaults in it look like. -/

namespace StateHolders

namespace Source

theorem exists_removed (text : String) :
    ∃ removed, text = withoutStamp text ++ removed ∧ (removed = "" ∨ IsStamp removed) := by
  unfold withoutStamp
  split
  · next before tail hcut =>
    split
    · next htail =>
      have htext := Text.eq_append_of_cutLast? hcut
      refine ⟨stampMark ++ String.ofList tail, ?_, .inr (isStamp_iff.mpr ⟨tail, htail, by simp⟩)⟩
      exact String.toList_inj.mp (by simpa using htext)
    · exact ⟨"", String.append_empty.symm, .inl rfl⟩
  · exact ⟨"", String.append_empty.symm, .inl rfl⟩

theorem append_stamp (text : String) (seconds : Nat) :
    text ++ stamp seconds = text ++ "\n" ++ ("// Generated at " ++ toString seconds) ++ "\n" := by
  rw [stamp_eq]
  simp only [String.append_assoc, String.append_empty, String.empty_append]

theorem lines_append_stamp (text : String) (seconds : Nat) :
    lines (text ++ stamp seconds) =
      lines text ++ [("// Generated at " ++ toString seconds).toList, []] := by
  have hcomment : lines ("// Generated at " ++ toString seconds) =
      [("// Generated at " ++ toString seconds).toList] := by
    rw [lines_stampComment (lineBreak_notMem_of_digits isDigit_of_mem_toString),
      String.toList_append]
    rfl
  have hempty : lines "" = [[]] := rfl
  rw [append_stamp, ← String.append_empty (s := text ++ "\n" ++ _ ++ "\n"), lines_append_break,
    lines_append_break, hcomment, hempty, List.append_assoc]
  rfl

end Source

open Source (File withoutStamp IsStamp lines)

inductive Emitter where
  | factory
  | saver

namespace Emitter

def file : Emitter → ResolvedHolder → Option Nat → File
  | .factory => Factory.file
  | .saver => Saver.file

theorem stableText_file (e : Emitter) (c : ResolvedHolder) (stampedAt : Option Nat) :
    (e.file c stampedAt).stableText = (e.file c none).text := by
  cases e with
  | factory => exact c.stableText_factory stampedAt
  | saver => exact c.stableText_saver stampedAt

theorem text_stamped (e : Emitter) (c : ResolvedHolder) (seconds : Nat) :
    (e.file c (some seconds)).text = (e.file c none).text ++ Source.stamp seconds := by
  cases e with
  | factory => exact Source.frame_stamped _ _ _
  | saver => exact Source.frame_stamped _ _ _

end Emitter

/-- A stamp comes off exactly. It is one line more, so the stable text of a file is its text before it was
stamped, and stable texts agree where the texts without stamps do. Off any other text comes one stamp at
its end or nothing. -/
theorem stamp_exactly_removable :
    (∀ (e : Emitter) (c : ResolvedHolder) (seconds : Nat),
      (e.file c (some seconds)).stableText = (e.file c none).text ∧
      (e.file c none).stableText = (e.file c none).text ∧
      (e.file c (some seconds)).text =
        (e.file c none).text ++ "\n" ++ ("// Generated at " ++ toString seconds) ++ "\n" ∧
      lines (e.file c (some seconds)).text =
        lines (e.file c none).text ++ [("// Generated at " ++ toString seconds).toList, []]) ∧
    (∀ (e e' : Emitter) (c c' : ResolvedHolder) (stampedAt stampedAt' : Option Nat),
      (e.file c stampedAt).stableText = (e'.file c' stampedAt').stableText ↔
        (e.file c none).text = (e'.file c' none).text) ∧
    (∀ text : String,
      ∃ removed, text = withoutStamp text ++ removed ∧ (removed = "" ∨ IsStamp removed)) ∧
    ∀ text removed : String, IsStamp removed → withoutStamp (text ++ removed) = text := by
  refine ⟨fun e c seconds => ⟨e.stableText_file c _, e.stableText_file c none, ?_, ?_⟩,
    fun e e' c c' stampedAt stampedAt' => ?_, Source.exists_removed,
    fun text removed h => Source.withoutStamp_append h text⟩
  · rw [e.text_stamped, Source.append_stamp]
  · rw [e.text_stamped, Source.lines_append_stamp]
  · rw [e.stableText_file, e'.stableText_file]

def diary : ResolvedHolder where
  holder :=
    { qualifiedName := "app.Diary"
      package := "app"
      params := [⟨"day", .named "Int", .literal "0\n// Generated at 7\n", false, none⟩]
      savedProperties := []
      injector := none
      mode := .plain
      injectionMode := none }
  defaults := [some (.verbatim "0\n// Generated at 7\n")]

theorem stamp_exactly_removable_diary :
    (Emitter.factory.file diary (some 9)).stableText = (Emitter.factory.file diary none).text ∧
      IsStamp "\n// Generated at 9" ∧
      withoutStamp ("day = 0\n// Generated at 7\n" ++ "\n// Generated at 9") =
        "day = 0\n// Generated at 7\n" := by
  have hstamp : IsStamp "\n// Generated at 9" := ⟨"9", by decide, by simp, .inl rfl⟩
  exact ⟨(stamp_exactly_removable.1 .factory diary 9).1, hstamp,
    stamp_exactly_removable.2.2.2 _ _ hstamp⟩

end StateHolders
