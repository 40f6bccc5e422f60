import StateHolders.Source.File
import StateHolders.FileTree
import StateHolders.Diagnostic.Basic

/-! Writing generated files to a store, one after the other, up to the first failure. -/

namespace StateHolders.Store

inductive WriteOutcome where
  | written
  | unchanged
  | wouldWrite
deriving DecidableEq, Repr

inductive WriteError where
  | createDirectory (path : Path) (cause : FileError)
  | write (path : Path) (cause : FileError)
deriving DecidableEq, Repr

namespace WriteError

def path : WriteError → Path
  | .createDirectory path _ => path
  | .write path _ => path

def message : WriteError → String
  | .createDirectory path cause => s!"cannot create directory `{path.text}`: {cause.message}"
  | .write path cause => s!"cannot write `{path.text}`: {cause.message}"

def diagnostic (e : WriteError) : Diagnostic where
  code := .writeError
  message := e.message
  labels := [.primary e.path.text none "output"]

end WriteError

structure WriteSummary where
  written : Nat
  unchanged : Nat
  wouldWrite : List Path
deriving DecidableEq, Repr

namespace WriteSummary

def empty : WriteSummary := ⟨0, 0, []⟩

def add (s : WriteSummary) (path : Path) : WriteOutcome → WriteSummary
  | .written => { s with written := s.written + 1 }
  | .unchanged => { s with unchanged := s.unchanged + 1 }
  | .wouldWrite => { s with wouldWrite := path :: s.wouldWrite }

end WriteSummary

abbrev Write (σ : Type) := σ → Source.File → σ × Except WriteError WriteOutcome

def writeAll (write : Write σ) (s : σ) : List Source.File → σ × Except WriteError WriteSummary
  | [] => (s, .ok .empty)
  | f :: files =>
    match write s f with
    | (s', .error e) => (s', .error e)
    | (s', .ok outcome) =>
      match writeAll write s' files with
      | (s'', .error e) => (s'', .error e)
      | (s'', .ok summary) => (s'', .ok (summary.add f.relativePath outcome))

end StateHolders.Store
