import Mathlib.Data.List.Basic
import StateHolders.Proofs.Source.Stamp
import StateHolders.Proofs.Text.Scan

/-! The lines of a generated file. Where no fragment breaks a line, the lines of the body stand in the
text as they were laid out, between the lines of the head and those of the stamp. -/

namespace StateHolders.Source

namespace Fragment

variable {n : Naming}

def IsWhole (n : Naming) (f : Fragment) : Prop := '\n' ∉ (f.render n).toList

theorem isWhole_text {s : String} (h : '\n' ∉ s.toList) : (text s).IsWhole n := h

theorem mem_renderAll_iff {fs : List Fragment} {c : Char} :
    c ∈ (renderAll n fs).toList ↔ ∃ f ∈ fs, c ∈ (f.render n).toList := by
  induction fs with
  | nil => simp [renderAll]
  | cons f fs ih => simp [renderAll, ih]

theorem notMem_renderAll_iff {fs : List Fragment} :
    '\n' ∉ (renderAll n fs).toList ↔ ∀ f ∈ fs, f.IsWhole n := by
  simp [mem_renderAll_iff, IsWhole]

theorem renderAll_append (fs gs : List Fragment) :
    renderAll n (fs ++ gs) = renderAll n fs ++ renderAll n gs := by
  induction fs with
  | nil => simp [renderAll]
  | cons f fs ih => simp [renderAll, ih, String.append_assoc]

end Fragment

theorem toList_margin (level : Nat) : (margin level).toList = List.replicate (4 * level) ' ' :=
  String.toList_ofList

namespace Line

def printed (n : Naming) (l : Line) : List Char :=
  (margin l.level ++ Fragment.renderAll n l.content).toList

def IsWhole (n : Naming) (l : Line) : Prop := ∀ f ∈ l.content, f.IsWhole n

variable {n : Naming} {l : Line}

theorem printed_eq (n : Naming) (l : Line) : l.printed n =
    List.replicate (4 * l.level) ' ' ++ (Fragment.renderAll n l.content).toList := by
  rw [printed, String.toList_append, toList_margin]

theorem notMem_printed_iff : '\n' ∉ l.printed n ↔ l.IsWhole n := by
  rw [IsWhole, ← Fragment.notMem_renderAll_iff, printed_eq]
  simp

theorem isWhole_of_map_printed_eq {ls ls' : List Line}
    (h : ls.map (printed n) = ls'.map (printed n)) (hls' : ∀ l ∈ ls', l.IsWhole n) :
    ∀ l ∈ ls, l.IsWhole n := by
  have hprinted : ∀ s ∈ ls'.map (printed n), '\n' ∉ s :=
    List.forall_mem_map.mpr fun l hl => notMem_printed_iff.mpr (hls' l hl)
  rw [← h] at hprinted
  exact fun l hl => notMem_printed_iff.mp (List.forall_mem_map.mp hprinted l hl)

theorem dropWhile_printed (h : (Fragment.renderAll n l.content).toList.head? ≠ some ' ') :
    (l.printed n).dropWhile (· = ' ') = (Fragment.renderAll n l.content).toList := by
  rw [printed_eq]
  refine Text.dropWhile_append_of_halts (by simp) fun c hc => ?_
  simpa using fun heq : c = ' ' => h (heq ▸ hc)

theorem head?_printed (h : 0 < l.level) : (l.printed n).head? = some ' ' := by
  rw [printed_eq, List.head?_append, List.head?_replicate, if_neg (by omega)]
  rfl

theorem head?_ne_of_level_pos {ls : List Line} (h : ∀ l ∈ ls, 0 < l.level) :
    ∀ line ∈ ls.map (printed n), line.head? ≠ some 'i' := by
  rw [List.forall_mem_map]
  intro l hl
  rw [head?_printed (h l hl)]
  decide

end Line

/-! The lines of a text. -/

def lines (text : String) : List (List Char) := text.toList.splitOn '\n'

theorem lines_append_break (a b : String) : lines (a ++ "\n" ++ b) = lines a ++ lines b := by
  simp [lines, List.splitOn_append_cons_self]

theorem lines_of_notMem {s : String} (h : '\n' ∉ s.toList) : lines s = [s.toList] :=
  List.splitOn_eq_singleton h

theorem lines_renderAll_append {n : Naming} {ls : List Line} (h : ∀ l ∈ ls, l.IsWhole n)
    (rest : String) :
    lines (Line.renderAll n ls ++ rest) = ls.map (Line.printed n) ++ lines rest := by
  induction ls with
  | nil => simp [Line.renderAll]
  | cons l ls ih =>
    rw [List.forall_mem_cons] at h
    have hline : lines (margin l.level ++ Fragment.renderAll n l.content) = [l.printed n] :=
      lines_of_notMem (Line.notMem_printed_iff.mpr h.1)
    rw [Line.renderAll, Line.render, String.append_assoc, lines_append_break, hline, ih h.2,
      List.map_cons, List.singleton_append, List.cons_append]

theorem exists_head_eq (t : ImportTable) : ∃ head,
    header ++ "\n\n" ++ packageClause t.package ++ importClauses t.imports = head ++ "\n" := by
  have hpackage : ∃ head, header ++ "\n\n" ++ packageClause t.package = head ++ "\n" := by
    unfold packageClause
    split
    · exact ⟨header ++ "\n", rfl⟩
    · refine ⟨header ++ "\n\n" ++ ("package " ++ t.package ++ "\n"), ?_⟩
      have hbreaks : ("\n\n" : String) = "\n" ++ "\n" := rfl
      change header ++ "\n\n" ++ ("package " ++ t.package ++ "\n\n") = _
      rw [hbreaks]
      simp only [String.append_assoc]
  unfold importClauses
  split
  · obtain ⟨head, hhead⟩ := hpackage
    exact ⟨head, by rw [hhead, String.append_empty]⟩
  · exact ⟨_, String.append_assoc.symm⟩

theorem stamp_eq (seconds : Nat) :
    stamp seconds = "" ++ "\n" ++ ("// Generated at " ++ toString seconds ++ "\n" ++ "") := by
  have hmark : stampMark = "" ++ "\n" ++ "// Generated at " := rfl
  rw [stamp, hmark, String.append_empty]
  simp only [String.append_assoc]

theorem lines_stampComment {digits : String} (h : '\n' ∉ digits.toList) :
    lines ("// Generated at " ++ digits) = [stampComment ++ digits.toList] := by
  have htext : ("// Generated at " ++ digits).toList = stampComment ++ digits.toList :=
    String.toList_append
  have hbreak : '\n' ∉ stampComment ++ digits.toList := fun hmem =>
    (List.mem_append.mp hmem).elim lineBreak_notMem_stampComment h
  rw [lines, htext, List.splitOn_eq_singleton hbreak]

theorem mem_lines_stamp {stampedAt : Option Nat} {l : List Char}
    (h : l ∈ lines ((stampedAt.map stamp).getD "")) : l = [] ∨ stampComment <+: l := by
  have hempty : lines "" = [[]] := rfl
  cases stampedAt with
  | none =>
    rw [Option.map_none, Option.getD_none, hempty] at h
    exact .inl (List.mem_singleton.mp h)
  | some seconds =>
    have hdigits : '\n' ∉ (toString seconds).toList :=
      lineBreak_notMem_of_digits isDigit_of_mem_toString
    rw [Option.map_some, Option.getD_some, stamp_eq, lines_append_break, lines_append_break,
      lines_stampComment hdigits, hempty] at h
    simp only [List.singleton_append, List.mem_cons, List.not_mem_nil, or_false] at h
    rcases h with rfl | rfl | rfl
    · exact .inl rfl
    · exact .inr (List.prefix_append _ _)
    · exact .inl rfl

theorem printed_closingLine (n : Naming) : closingLine.printed n = ['\x7d'] := by
  simp [Line.printed_eq, closingLine, Fragment.renderAll, Fragment.render]

theorem head?_ne_of_mem_stamp {stampedAt : Option Nat} {l : List Char}
    (h : l ∈ lines ((stampedAt.map stamp).getD "")) : l.head? ≠ some 'i' := by
  rcases mem_lines_stamp h with rfl | ⟨rest, rfl⟩
  · simp
  · rw [List.head?_append_of_ne_nil _ stampComment_ne_nil]
    decide

/-- The printed lines of the body are lines of the file, and of the lines after them, those of a stamp,
none looks like the beginning of a function. -/
theorem exists_lines_frame (t : ImportTable) {body : List Line}
    (h : ∀ l ∈ body, l.IsWhole t.naming) (stampedAt : Option Nat) :
    ∃ before after, lines (frame t body stampedAt) =
      before ++ (body.map (Line.printed t.naming) ++ after) ∧
        ∀ l ∈ after, l.head? ≠ some 'i' := by
  obtain ⟨head, hhead⟩ := exists_head_eq t
  refine ⟨lines head, lines ((stampedAt.map stamp).getD ""), ?_, fun l => head?_ne_of_mem_stamp⟩
  rw [frame, hhead, String.append_assoc, lines_append_break, lines_renderAll_append h]

end StateHolders.Source
