import StateHolders.Diagnostic.Basic

/-! Diagnostics as terminal text. A report is a list of spans; painting adds nothing to it but the
codes that switch a span's colour on and off. -/

namespace StateHolders

inductive ColorMode where
  | auto
  | always
  | never
deriving DecidableEq, Repr

namespace ColorMode

def name : ColorMode → String
  | .auto => "auto"
  | .always => "always"
  | .never => "never"

def ofName? : String → Option ColorMode
  | "auto" => some .auto
  | "always" => some .always
  | "never" => some .never
  | _ => none

def unknownMessage (text : String) : String :=
  s!"unknown color mode `{text}` (expected `auto`, `always` or `never`)"

def usesColors (mode : ColorMode) (isTerminal : Bool) : Bool :=
  match mode with
  | .auto => isTerminal
  | .always => true
  | .never => false

end ColorMode

namespace Report

inductive Style where
  | error
  | warning
  | note
  | help
  | bold
  | secondary
deriving DecidableEq, Repr

def Style.parameters : Style → String
  | .error => "1;31"
  | .warning => "1;33"
  | .note => "1;36"
  | .help => "1;32"
  | .bold => "1"
  | .secondary => "1;34"

def control (parameters : String) : String := "\x1b[" ++ parameters ++ "m"

structure Span where
  style : Option Style
  text : String
deriving DecidableEq, Repr

def plain (text : String) : Span := ⟨none, text⟩

def styled (style : Style) (text : String) : Span := ⟨some style, text⟩

def Span.paint (colors : Bool) (s : Span) : String :=
  match s.style with
  | some style => if colors then control style.parameters ++ s.text ++ control "0" else s.text
  | none => s.text

def paint (colors : Bool) : List Span → String
  | [] => ""
  | s :: spans => s.paint colors ++ paint colors spans

def severityStyle : Severity → Style
  | .error => .error
  | .warning => .warning
  | .note => .note
  | .help => .help

def label (l : Label) : List Span :=
  if l.isPrimary then
    [plain s!"  --> {l.location.text}: ", styled .error l.message, plain "\n"]
  else [plain s!"      {l.location.text}: ", styled .secondary l.message, plain "\n"]

def remark (tag : String) (style : Style) (text : String) : List Span :=
  [plain "  = ", styled style tag, plain s!": {text}\n"]

def diagnostic (d : Diagnostic) : List Span :=
  [styled (severityStyle d.severity) d.severity.text, styled .bold s!"[{d.code.text}]",
   plain s!": {d.message}\n"] ++
  d.labels.flatMap label ++ d.notes.flatMap (remark "note" .bold) ++
  d.suggestions.flatMap (remark "help" .help) ++ [plain "\n"]

def diagnostics (ds : List Diagnostic) : List Span := ds.flatMap diagnostic

def warningCount (n : Nat) : String := s!"{n} warning" ++ (if n = 1 then "" else "s") ++ " emitted"

def errorCount (n : Nat) : String := if n = 1 then "previous error" else s!"{n} previous errors"

def summary (errors warnings : Nat) : List Span :=
  if 0 < errors then
    [styled .error "error", plain s!": aborting due to {errorCount errors}",
     plain (if 0 < warnings then s!"; {warningCount warnings}\n" else "\n")]
  else if 0 < warnings then [styled .warning "warning", plain s!": {warningCount warnings}\n"]
  else []

def full (ds : List Diagnostic) : List Span :=
  if ds.isEmpty then []
  else
    let errors := ds.countP Diagnostic.isError
    diagnostics ds ++ summary errors (ds.length - errors)

end Report
end StateHolders
