import StateHolders.Diagnostic.Report
import StateHolders.Proofs.Text.Cut

/-! The line that a report of errors ends in. It tells how many errors the report has, and the number can be
read back from it, painted or not. -/

namespace StateHolders.Report

variable {colors : Bool} {ds : List Diagnostic}

theorem paint_append (colors : Bool) (ss ss' : List Span) :
    paint colors (ss ++ ss') = paint colors ss ++ paint colors ss' := by
  induction ss with
  | nil => simp [paint]
  | cons s ss ih => rw [List.cons_append, paint, ih, paint, String.append_assoc]

theorem exists_paint_diagnostics_eq (hne : ds ≠ []) :
    ∃ front, paint colors (diagnostics ds) = front ++ "\n" := by
  rcases List.eq_nil_or_concat ds with rfl | ⟨ds', d, rfl⟩
  · exact absurd rfl hne
  · obtain ⟨body, hbody⟩ : ∃ body, diagnostic d = body ++ [plain "\n"] := ⟨_, rfl⟩
    have hlast : diagnostics (ds' ++ [d]) = diagnostics ds' ++ diagnostic d := by
      simp [diagnostics]
    have hbreak : paint colors [plain "\n"] = "\n" := rfl
    refine ⟨paint colors (diagnostics ds' ++ body), ?_⟩
    rw [List.concat_eq_append, hlast, hbody, ← List.append_assoc, paint_append, hbreak]

theorem full_eq (hne : ds ≠ []) (herrors : ∀ d ∈ ds, d.isError = true) :
    full ds = diagnostics ds ++ summary ds.length 0 := by
  have hcount : ds.countP Diagnostic.isError = ds.length := List.countP_eq_length.mpr herrors
  rw [full, if_neg (by simpa using hne), hcount]
  simp

theorem paint_full_eq_empty_iff : paint colors (full ds) = "" ↔ ds = [] := by
  constructor
  · intro hempty
    by_cases hne : ds = []
    · exact hne
    · obtain ⟨front, hfront⟩ : ∃ front, paint colors (diagnostics ds) = front ++ "\n" :=
        exists_paint_diagnostics_eq hne
      rw [full, if_neg (by simpa using hne), paint_append, hfront] at hempty
      simp at hempty
  · rintro rfl
    rfl

/-! Reading the number of errors. -/

def summaryOpening (colors : Bool) : String :=
  paint colors [styled .error "error", plain ": aborting due to "]

def readCount? (text : List Char) : Option Nat :=
  if text = "previous error".toList then some 1
  else
    match Text.cutFirst? ' ' text with
    | some (number, rest) =>
      if number.all Char.isDigit ∧ rest = "previous errors".toList then
        some (Nat.ofDigitChars 10 number 0)
      else none
    | none => none

def readSummary? (colors : Bool) (line : List Char) : Option Nat :=
  (Text.afterPrefix? (summaryOpening colors).toList line).bind readCount?

def lastLine (text : String) : List Char := Text.afterLast '\n' text.toList.dropLast

theorem toList_numbered (n : Nat) :
    (s!"{n} previous errors").toList = Nat.toDigits 10 n ++ ' ' :: "previous errors".toList := by
  rw [show s!"{n} previous errors" = toString n ++ " previous errors" from rfl,
    Nat.toString_eq_ofList_toDigits, String.toList_append, String.toList_ofList]
  rfl

theorem isDigit_of_mem_toDigits {n : Nat} : ∀ c ∈ Nat.toDigits 10 n, c.isDigit = true :=
  fun _ hc => Nat.isDigit_of_mem_toDigits (by decide) (by decide) hc

theorem readCount?_errorCount (n : Nat) : readCount? (errorCount n).toList = some n := by
  unfold errorCount
  split
  · next hone => rw [hone]; rfl
  · have hdigits := isDigit_of_mem_toDigits (n := n)
    have hblank : ' ' ∉ Nat.toDigits 10 n := fun h => by simpa using hdigits ' ' h
    -- digits are not what the text of a single error begins with
    have hplural : Nat.toDigits 10 n ++ ' ' :: "previous errors".toList ≠
        "previous error".toList := by
      intro heq
      obtain ⟨c, digits, hc⟩ := List.exists_cons_of_ne_nil (Nat.toDigits_ne_nil (b := 10) (n := n))
      rw [hc, List.cons_append] at heq
      have hp : c = 'p' := (List.cons.inj heq).1
      simpa [hp] using hdigits c (hc ▸ List.mem_cons_self)
    have hvalue : Nat.ofDigitChars 10 (Nat.toDigits 10 n) 0 = n :=
      Nat.ofDigitChars_toDigits (by decide) (by decide)
    have hall : (Nat.toDigits 10 n).all Char.isDigit = true := List.all_eq_true.mpr hdigits
    rw [toList_numbered, readCount?, if_neg hplural, Text.cutFirst?_append hblank]
    simp only [hall, hvalue, and_self, if_true]

theorem lineBreak_notMem_errorCount (n : Nat) : '\n' ∉ (errorCount n).toList := by
  unfold errorCount
  split
  · decide
  · rw [toList_numbered]
    intro hmem
    rcases List.mem_append.mp hmem with hdigit | hrest
    · simpa using isDigit_of_mem_toDigits _ hdigit
    · exact absurd hrest (by decide)

theorem lineBreak_notMem_summaryOpening (colors : Bool) :
    '\n' ∉ (summaryOpening colors).toList := by
  cases colors <;> decide

theorem paint_summary {n : Nat} (hn : 0 < n) (colors : Bool) :
    paint colors (summary n 0) = summaryOpening colors ++ errorCount n ++ "\n" := by
  rw [summary, if_pos hn]
  change (styled .error "error").paint colors ++ (": aborting due to " ++ errorCount n ++ ("\n" ++ "")) =
    (styled .error "error").paint colors ++ (": aborting due to " ++ "") ++ errorCount n ++ "\n"
  simp only [String.append_assoc, String.append_empty]

/-- The diagnostics `ds` are printed after `lead`, and the line that follows them, the last one, tells their
number. -/
def EndsInSummary (colors : Bool) (text lead : String) (ds : List Diagnostic) : Prop :=
  ds ≠ [] ∧ (∃ line, text = lead ++ paint colors (diagnostics ds) ++ line ++ "\n") ∧
    readSummary? colors (lastLine text) = some ds.length

theorem endsInSummary_full (hne : ds ≠ []) (herrors : ∀ d ∈ ds, d.isError = true) (colors : Bool)
    (lead : String) : EndsInSummary colors (lead ++ paint colors (full ds)) lead ds := by
  have hlength : 0 < ds.length := List.length_pos_iff.mpr hne
  obtain ⟨front, hfront⟩ : ∃ front, paint colors (diagnostics ds) = front ++ "\n" :=
    exists_paint_diagnostics_eq hne
  have htext : lead ++ paint colors (full ds) = lead ++ paint colors (diagnostics ds) ++
      (summaryOpening colors ++ errorCount ds.length) ++ "\n" := by
    rw [full_eq hne herrors, paint_append, paint_summary hlength]
    simp only [String.append_assoc]
  have hwhole : '\n' ∉ (summaryOpening colors ++ errorCount ds.length).toList := by
    rw [String.toList_append, List.mem_append, not_or]
    exact ⟨lineBreak_notMem_summaryOpening colors, lineBreak_notMem_errorCount _⟩
  have hlast : lastLine (lead ++ paint colors (full ds)) =
      (summaryOpening colors ++ errorCount ds.length).toList := by
    have hbreak : "\n".toList = ['\n'] := rfl
    rw [htext, hfront, lastLine, String.toList_append, hbreak, List.dropLast_concat]
    simpa using Text.afterLast_append hwhole (lead.toList ++ front.toList)
  refine ⟨hne, ⟨_, htext⟩, ?_⟩
  rw [hlast, String.toList_append, readSummary?, Text.afterPrefix?_append, Option.bind_some,
    readCount?_errorCount]

end StateHolders.Report
