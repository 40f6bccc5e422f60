import StateHolders.Proofs.Diagnostic.Summary

/-! Colours in a report. Without its control sequences a coloured report is the plain one. Each colour is reset
where the text that has it ends, so on the same line unless that text has a line break; only the message of a
label can have one. -/

namespace StateHolders

def Member.name : Member → String
  | .param name => name
  | .property name => name
  | .key name => name

theorem Member.escape_notMem_text {m : Member} (h : '\x1b' ∉ m.name.toList) :
    '\x1b' ∉ m.text.toList := by
  cases m <;> simpa [Member.text, toString, Member.name] using h

def Label.strings (l : Label) : List String :=
  l.location.subject :: l.message :: l.location.member.toList.map Member.name

def Diagnostic.strings (d : Diagnostic) : List String :=
  d.message :: d.labels.flatMap Label.strings ++ d.notes ++ d.suggestions

def EscapeFree (strings : List String) : Prop := ∀ s ∈ strings, '\x1b' ∉ s.toList

theorem Label.escape_notMem_location {l : Label} (h : EscapeFree l.strings) :
    '\x1b' ∉ l.location.text.toList := by
  have hsubject : '\x1b' ∉ l.location.subject.toList := h _ List.mem_cons_self
  unfold Location.text
  split
  · next member hmember =>
    have hname : '\x1b' ∉ member.name.toList := h _ (by simp [Label.strings, hmember])
    simpa [toString, hsubject] using Member.escape_notMem_text hname
  · exact hsubject

namespace Report

variable {colors : Bool} {ss : List Span} {u v rest before after : List Char} {p q : String}

/-! Control sequences. -/

def cutControl? : List Char → Option (List Char × List Char)
  | '\x1b' :: '[' :: rest => Text.cutFirst? 'm' rest
  | _ => none

theorem length_cutControl? {s : List Char} (h : cutControl? s = some (u, v)) : v.length < s.length := by
  unfold cutControl? at h
  split at h
  · rw [Text.eq_append_of_cutFirst? h]
    simp only [List.length_cons, List.length_append]
    omega
  · cases h

def withoutControls (s : List Char) : List Char :=
  match s with
  | [] => []
  | c :: rest =>
    match h : cutControl? (c :: rest) with
    | some (_, after) =>
      have := length_cutControl? h
      withoutControls after
    | none => c :: withoutControls rest
termination_by s.length
decreasing_by
  · exact this
  · exact Nat.lt_succ_self rest.length

theorem withoutControls_nil : withoutControls [] = [] := by
  rw [withoutControls]

theorem withoutControls_of_cutControl? {s : List Char} (h : cutControl? s = some (u, v)) :
    withoutControls s = withoutControls v := by
  cases s with
  | nil => cases h
  | cons c s =>
    rw [withoutControls]
    split
    · next h' =>
      rw [h] at h'
      cases h'
      rfl
    · next h' =>
      rw [h] at h'
      cases h'

theorem withoutControls_cons {c : Char} (hc : c ≠ '\x1b') (s : List Char) :
    withoutControls (c :: s) = c :: withoutControls s := by
  have hnone : cutControl? (c :: s) = none := by
    unfold cutControl?
    split
    · next heq => exact absurd (List.cons.inj heq).1 hc
    · rfl
  rw [withoutControls]
  split
  · next h =>
    rw [hnone] at h
    cases h
  · rfl

theorem withoutControls_append (hu : '\x1b' ∉ u) (rest : List Char) :
    withoutControls (u ++ rest) = u ++ withoutControls rest := by
  induction u with
  | nil => rfl
  | cons c u ih =>
    rw [List.mem_cons, not_or] at hu
    rw [List.cons_append, withoutControls_cons (Ne.symm hu.1), ih hu.2, List.cons_append]

theorem toList_control (p : String) : (control p).toList = '\x1b' :: '[' :: (p.toList ++ ['m']) := by
  simp [control]

theorem cutControl?_control (hp : 'm' ∉ p.toList) (rest : List Char) :
    cutControl? ((control p).toList ++ rest) = some (p.toList, rest) := by
  rw [toList_control]
  simpa [cutControl?] using Text.cutFirst?_append hp rest

theorem withoutControls_control (hp : 'm' ∉ p.toList) (rest : List Char) :
    withoutControls ((control p).toList ++ rest) = withoutControls rest :=
  withoutControls_of_cutControl? (cutControl?_control hp rest)

theorem split_of_escape_notMem (hu : '\x1b' ∉ u) (h : u ++ v = before ++ '\x1b' :: after) :
    ∃ between, v = between ++ '\x1b' :: after := by
  rcases List.append_eq_append_iff.mp h with ⟨between, -, hv⟩ | ⟨between, rfl, hafter⟩
  · exact ⟨between, hv⟩
  · cases between with
    | nil => exact ⟨[], hafter.symm⟩
    | cons c between =>
      obtain ⟨rfl, -⟩ := List.cons.inj hafter
      exact absurd (List.mem_append_right before List.mem_cons_self) hu

theorem control_cases (hq : '\x1b' ∉ q.toList ∧ 'm' ∉ q.toList) (hp : 'm' ∉ p.toList) (hu : '\x1b' ∉ u)
    (h : (control q).toList ++ (u ++ v) = before ++ ((control p).toList ++ after)) :
    (p = q ∧ after = u ++ v) ∨ ∃ between, v = between ++ ((control p).toList ++ after) := by
  cases before with
  | nil =>
    -- both sequences begin the text, and it can be cut in one way only
    have hcut := congrArg cutControl? h
    rw [List.nil_append, cutControl?_control hq.2, cutControl?_control hp] at hcut
    obtain ⟨hparameters, hafter⟩ := Prod.mk.inj (Option.some.inj hcut)
    exact .inl ⟨(String.toList_inj.mp hparameters).symm, hafter.symm⟩
  | cons c before =>
    rw [toList_control, List.cons_append, List.cons_append] at h
    have htail : ('[' :: (q.toList ++ ['m']) ++ u) ++ v = before ++ ((control p).toList ++ after) := by
      rw [List.append_assoc]
      exact (List.cons.inj h).2
    have hfront : '\x1b' ∉ '[' :: (q.toList ++ ['m']) ++ u := by simp [hq.1, hu]
    rw [toList_control] at htail ⊢
    exact .inr (split_of_escape_notMem hfront htail)

/-! Painted spans. -/

theorem parameters_notMem (style : Style) :
    '\x1b' ∉ style.parameters.toList ∧ 'm' ∉ style.parameters.toList := by
  cases style <;> decide

def coloured (style : Style) (text : String) : List Char :=
  (control style.parameters).toList ++ (text.toList ++ (control "0").toList)

theorem coloured_append (style : Style) (text : String) (rest : List Char) :
    coloured style text ++ rest =
      (control style.parameters).toList ++ (text.toList ++ ((control "0").toList ++ rest)) := by
  rw [coloured, List.append_assoc, List.append_assoc]

theorem Span.toList_paint_of_style {s : Span} {style : Style} (h : s.style = some style) :
    (s.paint true).toList = coloured style s.text := by
  simp [Span.paint, h, coloured]

theorem Span.paint_false (s : Span) : s.paint false = s.text := by
  unfold Span.paint
  split <;> rfl

theorem Span.toList_paint_cases (s : Span) (colors : Bool) :
    (s.paint colors).toList = s.text.toList ∨
      ∃ style, s.style = some style ∧ (s.paint colors).toList = coloured style s.text := by
  cases colors with
  | false => exact .inl (congrArg String.toList s.paint_false)
  | true =>
    cases hstyle : s.style with
    | none =>
      rw [Span.paint, hstyle]
      exact .inl rfl
    | some style => exact .inr ⟨style, rfl, Span.toList_paint_of_style hstyle⟩

theorem coloured_isInfix {style : Style} {text : String} (h : styled style text ∈ ss) :
    coloured style text <:+: (paint true ss).toList := by
  obtain ⟨front, back, rfl⟩ := List.append_of_mem h
  refine ⟨(paint true front).toList, (paint true back).toList, ?_⟩
  rw [paint_append, paint, String.toList_append, String.toList_append, Span.toList_paint_of_style rfl,
    List.append_assoc]
  rfl

theorem withoutControls_span {s : Span} (hs : '\x1b' ∉ s.text.toList) (rest : List Char) :
    withoutControls ((s.paint colors).toList ++ rest) = s.text.toList ++ withoutControls rest := by
  rcases s.toList_paint_cases colors with hpaint | ⟨style, -, hpaint⟩
  · rw [hpaint, withoutControls_append hs]
  · rw [hpaint, coloured_append, withoutControls_control (parameters_notMem style).2,
      withoutControls_append hs, withoutControls_control (by decide)]

theorem withoutControls_paint (hss : ∀ s ∈ ss, '\x1b' ∉ s.text.toList) :
    withoutControls (paint colors ss).toList = (paint false ss).toList := by
  induction ss with
  | nil => exact withoutControls_nil
  | cons s ss ih =>
    obtain ⟨hs, hss⟩ := List.forall_mem_cons.mp hss
    rw [paint, paint, String.toList_append, String.toList_append, withoutControls_span hs, ih hss,
      s.paint_false]

theorem exists_span_of_control (hss : ∀ s ∈ ss, '\x1b' ∉ s.text.toList) (hp : 'm' ∉ p.toList) (hne : p ≠ "0")
    (h : (paint colors ss).toList = before ++ ((control p).toList ++ after)) :
    ∃ s ∈ ss, ∃ style, s.style = some style ∧ p = style.parameters ∧
      s.text.toList ++ (control "0").toList <+: after := by
  induction ss generalizing before with
  | nil =>
    have hlength := congrArg List.length h
    simp [paint, toList_control] at hlength
  | cons s ss ih =>
    obtain ⟨hs, hss⟩ := List.forall_mem_cons.mp hss
    have hlater : (∃ between, (paint colors ss).toList = between ++ ((control p).toList ++ after)) →
        ∃ s' ∈ s :: ss, ∃ style, s'.style = some style ∧ p = style.parameters ∧
          s'.text.toList ++ (control "0").toList <+: after := by
      rintro ⟨between, hbetween⟩
      obtain ⟨s', hs', hstyle⟩ := ih hss hbetween
      exact ⟨s', List.mem_cons_of_mem _ hs', hstyle⟩
    rw [paint, String.toList_append] at h
    rcases s.toList_paint_cases colors with hpaint | ⟨style, hstyle, hpaint⟩
    · have hsplit : ∃ between, (paint colors ss).toList = between ++ ((control p).toList ++ after) := by
        rw [hpaint, toList_control] at h
        rw [toList_control]
        exact split_of_escape_notMem hs h
      exact hlater hsplit
    · rw [hpaint, coloured_append] at h
      rcases control_cases (parameters_notMem style) hp hs h with ⟨hparameters, rfl⟩ | ⟨between, h⟩
      · exact ⟨s, List.mem_cons_self, style, hstyle, hparameters, by simp⟩
      · -- what comes next is the reset of this span, which opens nothing
        rcases control_cases (by decide) hp List.not_mem_nil h with ⟨hreset, -⟩ | hrest
        · exact absurd hreset hne
        · exact hlater hrest

/-! The texts of a report. -/

/-- No text has a control sequence or a part of one, and a coloured text with a line break is one of `messages`. -/
def Printable (messages : List String) (ss : List Span) : Prop :=
  ∀ s ∈ ss, '\x1b' ∉ s.text.toList ∧ (s.style ≠ none → '\n' ∈ s.text.toList → s.text ∈ messages)

variable {messages : List String}

theorem printable_append {ss ss' : List Span} :
    Printable messages (ss ++ ss') ↔ Printable messages ss ∧ Printable messages ss' :=
  List.forall_mem_append

theorem printable_flatMap {α : Type} {xs : List α} {f : α → List Span}
    (h : ∀ x ∈ xs, Printable messages (f x)) : Printable messages (xs.flatMap f) :=
  List.forall_mem_flatMap.mpr h

theorem printable_label {l : Label} (hstrings : EscapeFree l.strings) (hmem : l.message ∈ messages) :
    Printable messages (label l) := by
  have hlocation : '\x1b' ∉ l.location.text.toList := l.escape_notMem_location hstrings
  have hmessage : '\x1b' ∉ l.message.toList := hstrings _ (by simp [Label.strings])
  unfold label Printable
  split <;> simp [plain, styled, toString, hlocation, hmessage, hmem]

theorem printable_remark {tag text : String} (htag : '\x1b' ∉ tag.toList ∧ '\n' ∉ tag.toList)
    (htext : '\x1b' ∉ text.toList) (style : Style) : Printable messages (remark tag style text) := by
  simp [Printable, remark, plain, styled, toString, htag, htext]

theorem printable_diagnostic {d : Diagnostic} (hstrings : EscapeFree d.strings)
    (hmem : ∀ l ∈ d.labels, l.message ∈ messages) : Printable messages (diagnostic d) := by
  simp only [EscapeFree, Diagnostic.strings, List.forall_mem_append, List.forall_mem_cons,
    List.forall_mem_flatMap] at hstrings
  obtain ⟨⟨⟨hmessage, hlabels⟩, hnotes⟩, hsuggestions⟩ := hstrings
  have hseverity : '\x1b' ∉ d.severity.text.toList ∧ '\n' ∉ d.severity.text.toList := by
    cases d.severity <;> decide
  have hcode : '\x1b' ∉ d.code.text.toList ∧ '\n' ∉ d.code.text.toList := by
    cases d.code <;> decide
  simp only [diagnostic, printable_append]
  refine ⟨⟨⟨⟨?header, ?labels⟩, ?notes⟩, ?suggestions⟩, ?last⟩
  case header => simp [Printable, plain, styled, toString, hmessage, hseverity, hcode]
  case labels => exact printable_flatMap fun l hl => printable_label (hlabels l hl) (hmem l hl)
  case notes =>
    exact printable_flatMap fun note hnote => printable_remark (by decide) (hnotes note hnote) .bold
  case suggestions =>
    exact printable_flatMap fun help hhelp => printable_remark (by decide) (hsuggestions help hhelp) .help
  case last => simp [Printable, plain]

theorem escape_notMem_number (n : Nat) : '\x1b' ∉ (toString n).toList := by
  rw [Nat.toString_eq_ofList_toDigits, String.toList_ofList]
  intro hmem
  simpa using isDigit_of_mem_toDigits _ hmem

theorem printable_summary (errors warnings : Nat) : Printable messages (summary errors warnings) := by
  have herrors : '\x1b' ∉ (errorCount errors).toList := by
    have hnumber := escape_notMem_number errors
    unfold errorCount
    split <;> simp_all [toString]
  have hwarnings : '\x1b' ∉ (warningCount warnings).toList := by
    have hnumber := escape_notMem_number warnings
    unfold warningCount
    split <;> simp_all [toString]
  unfold summary Printable
  split
  · split <;> simp [plain, styled, toString, herrors, hwarnings]
  · split <;> simp [plain, styled, toString, hwarnings]

def printed (mode : ColorMode) (isTerminal : Bool) (ds : List Diagnostic) (errors warnings : Nat) :
    List Char :=
  (paint (mode.usesColors isTerminal) (diagnostics ds ++ summary errors warnings)).toList

variable {ds : List Diagnostic} {errors warnings : Nat}

theorem printable_report (hds : ∀ d ∈ ds, EscapeFree d.strings) :
    Printable (ds.flatMap fun d => d.labels.map Label.message)
      (diagnostics ds ++ summary errors warnings) := by
  refine printable_append.mpr ⟨printable_flatMap fun d hd => ?_, printable_summary errors warnings⟩
  refine printable_diagnostic (hds d hd) fun l hl => ?_
  exact List.mem_flatMap.mpr ⟨d, hd, List.mem_map_of_mem hl⟩

theorem styled_severity_mem {d : Diagnostic} (hd : d ∈ ds) :
    styled (severityStyle d.severity) d.severity.text ∈ diagnostics ds ++ summary errors warnings := by
  refine List.mem_append_left _ (List.mem_flatMap.mpr ⟨d, hd, ?_⟩)
  simp [diagnostic]

def labelStyle (l : Label) : Style := if l.isPrimary then .error else .secondary

theorem styled_message_mem {d : Diagnostic} (hd : d ∈ ds) {l : Label} (hl : l ∈ d.labels) :
    styled (labelStyle l) l.message ∈ diagnostics ds ++ summary errors warnings := by
  have hlabel : styled (labelStyle l) l.message ∈ label l := by
    unfold label labelStyle
    split <;> simp
  refine List.mem_append_left _ (List.mem_flatMap.mpr ⟨d, hd, ?_⟩)
  simp only [diagnostic, List.mem_append]
  exact .inl (.inl (.inl (.inr (List.mem_flatMap.mpr ⟨l, hl, hlabel⟩))))

/-- The style that is in force at the beginning of `after` is reset behind `text`. -/
structure ResetsBehind (text after : List Char) : Prop where
  escape_notMem : '\x1b' ∉ text
  reset : text ++ (control "0").toList <+: after

theorem ResetsBehind.reset_in_line {text : List Char} (h : ResetsBehind text after)
    (hline : '\n' ∉ text) : text ++ (control "0").toList <+: after.takeWhile (· ≠ '\n') := by
  obtain ⟨rest, hrest⟩ := h.reset
  have hreset : '\n' ∉ (control "0").toList := by decide
  have hinline : ∀ c ∈ text ++ (control "0").toList, decide (c ≠ '\n') = true := by
    intro c hc
    rw [decide_eq_true_iff]
    rintro rfl
    exact (List.mem_append.mp hc).elim hline hreset
  rw [← hrest, List.takeWhile_append_of_pos hinline]
  exact List.prefix_append _ _

/-- Without the control sequences a report is the one without colours. What a control sequence switches on is
reset on the same line, or behind a label's message that has a line break. With colours on, severities and messages
of labels have them. -/
theorem colors_change_only_colors (hds : ∀ d ∈ ds, EscapeFree d.strings) (mode : ColorMode)
    (isTerminal : Bool) (errors warnings : Nat) :
    withoutControls (printed mode isTerminal ds errors warnings) =
        printed .never isTerminal ds errors warnings ∧
      (∀ before p after, 'm' ∉ p.toList → p ≠ "0" →
        printed mode isTerminal ds errors warnings = before ++ ((control p).toList ++ after) →
        ∃ style text, p = Style.parameters style ∧ ResetsBehind text after ∧
          (('\n' ∉ text ∧ text ++ (control "0").toList <+: after.takeWhile (· ≠ '\n')) ∨
            ('\n' ∈ text ∧ ∃ d ∈ ds, ∃ l ∈ d.labels, text = l.message.toList))) ∧
      (mode.usesColors isTerminal = true → ∀ d ∈ ds,
        coloured (severityStyle d.severity) d.severity.text <:+:
            printed mode isTerminal ds errors warnings ∧
          ∀ l ∈ d.labels, coloured (labelStyle l) l.message <:+:
            printed mode isTerminal ds errors warnings) := by
  have hprintable : Printable (ds.flatMap fun d => d.labels.map Label.message)
      (diagnostics ds ++ summary errors warnings) := printable_report hds
  have hescape : ∀ s ∈ diagnostics ds ++ summary errors warnings, '\x1b' ∉ s.text.toList :=
    fun s hs => (hprintable s hs).1
  refine ⟨withoutControls_paint hescape, ?_, fun hcolors d hd => ?_⟩
  · intro before p after hp hne hsplit
    obtain ⟨s, hs, style, hstyle, hparameters, hreset⟩ := exists_span_of_control hescape hp hne hsplit
    have hbehind : ResetsBehind s.text.toList after := ⟨hescape s hs, hreset⟩
    refine ⟨style, s.text.toList, hparameters, hbehind, ?_⟩
    by_cases hbreak : '\n' ∈ s.text.toList
    · have hmem := (hprintable s hs).2 (by simp [hstyle]) hbreak
      obtain ⟨d, hd, hmem⟩ := List.mem_flatMap.mp hmem
      obtain ⟨l, hl, hmessage⟩ := List.mem_map.mp hmem
      exact .inr ⟨hbreak, d, hd, l, hl, by rw [hmessage]⟩
    · exact .inl ⟨hbreak, hbehind.reset_in_line hbreak⟩
  · rw [printed, hcolors]
    exact ⟨coloured_isInfix (styled_severity_mem hd),
      fun l hl => coloured_isInfix (styled_message_mem hd hl)⟩

def unbalanced : Diagnostic where
  code := .missingSaveableProperty
  message := "no property for x"
  labels := [.primary "a.Counter" (some (.param "x")) "persisted\nhere",
    .secondary "a.Counter" none "no such key"]
  notes := ["properties only"]
  suggestions := ["mark one"]

theorem colors_change_only_colors_unbalanced :
    (∀ d ∈ [unbalanced], EscapeFree d.strings) ∧
      withoutControls (printed .auto true [unbalanced] 1 2) = printed .never true [unbalanced] 1 2 ∧
      coloured .secondary "no such key" <:+: printed .auto true [unbalanced] 1 2 ∧
      ∃ after, printed .auto true [unbalanced] 1 2 = (control "1;31").toList ++ after ∧
        ∃ style text, "1;31" = Style.parameters style ∧ ResetsBehind text after ∧
          (('\n' ∉ text ∧ text ++ (control "0").toList <+: after.takeWhile (· ≠ '\n')) ∨
            ('\n' ∈ text ∧ ∃ d ∈ [unbalanced], ∃ l ∈ d.labels, text = l.message.toList)) := by
  have hescape : ∀ d ∈ [unbalanced], EscapeFree d.strings := by
    simp [EscapeFree, unbalanced, Diagnostic.strings, Label.strings, Label.primary, Label.secondary,
      Member.name, or_imp, forall_and]
  obtain ⟨hplain, hreset, hcoloured⟩ := colors_change_only_colors hescape .auto true 1 2
  have hlabels := (hcoloured rfl unbalanced List.mem_cons_self).2
  have hsplit : printed .auto true [unbalanced] 1 2 = (control "1;31").toList ++
      ("error".toList ++ ((control "0").toList ++
        (paint true (diagnostics [unbalanced] ++ summary 1 2).tail).toList)) := by
    have hspans : diagnostics [unbalanced] ++ summary 1 2 =
        styled .error "error" :: (diagnostics [unbalanced] ++ summary 1 2).tail := rfl
    rw [printed, hspans, paint, String.toList_append]
    exact coloured_append .error "error" _
  refine ⟨hescape, hplain, hlabels (.secondary "a.Counter" none "no such key") ?_, _, hsplit,
    hreset [] _ _ (by decide) (by decide) ?_⟩
  · exact List.mem_cons_of_mem _ List.mem_cons_self
  · rw [List.nil_append, ← hsplit]

end Report
end StateHolders
