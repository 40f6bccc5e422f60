import StateHolders.Holder.Extraction
import StateHolders.Holder.Consistency
import StateHolders.Saver.Source
import StateHolders.Config

/-! A run over declarations. Each class is taken through extraction, validation and resolution by
itself; a class that fails in one of them contributes its problems, and the others their files. -/

namespace StateHolders

inductive Phase where
  | extract
  | validate
  | resolve
deriving DecidableEq, Repr

structure ClassFailure where
  holder : String
  phase : Phase
  problems : List Problem
deriving DecidableEq, Repr

def ClassFailure.diagnostics (f : ClassFailure) : List Diagnostic :=
  f.problems.map Problem.diagnostic

inductive ClassOutcome where
  | skipped (name : String)
  | generated (files : List Source.File)
  | failed (failure : ClassFailure)
deriving DecidableEq, Repr

namespace ClassOutcome

def files : ClassOutcome → List Source.File
  | .generated files => files
  | _ => []

def isGenerated : ClassOutcome → Bool
  | .generated _ => true
  | _ => false

def failure? : ClassOutcome → Option ClassFailure
  | .failed failure => some failure
  | _ => none

def skipped? : ClassOutcome → Option String
  | .skipped name => some name
  | _ => none

end ClassOutcome

def ResolvedHolder.files (c : ResolvedHolder) (stampedAt : Option Nat) : List Source.File :=
  Factory.file c stampedAt ::
    match c.holder.mode with
    | .plain => []
    | .persistent => [Saver.file c stampedAt]

def Declaration.analyze (d : Declaration) (run : InjectionMode) :
    Except ClassFailure ResolvedHolder :=
  match Holder.ofDeclaration d with
  | .error problems => .error ⟨d.qualifiedName, .extract, problems⟩
  | .ok h =>
    match h.problem? run with
    | some problem => .error ⟨d.qualifiedName, .validate, [problem]⟩
    | none => (h.resolve run).mapError fun problem => ⟨d.qualifiedName, .resolve, [problem]⟩

def Declaration.outcome (d : Declaration) (run : InjectionMode)
    (emit : ResolvedHolder → List Source.File) : ClassOutcome :=
  if d.isAnnotated then
    match d.analyze run with
    | .ok c => .generated (emit c)
    | .error failure => .failed failure
  else .skipped d.qualifiedName

structure Run where
  files : List Source.File
  failures : List ClassFailure
  generated : Nat
  skipped : List String
deriving DecidableEq, Repr

namespace Run

def ofOutcomes (outcomes : List ClassOutcome) : Run where
  files := outcomes.flatMap ClassOutcome.files
  failures := outcomes.filterMap ClassOutcome.failure?
  generated := outcomes.countP ClassOutcome.isGenerated
  skipped := outcomes.filterMap ClassOutcome.skipped?

def success (r : Run) : Bool := r.failures.isEmpty

def diagnostics (r : Run) : List Diagnostic := r.failures.flatMap ClassFailure.diagnostics

def errorCount (r : Run) : Nat := r.diagnostics.countP Diagnostic.isError

def generate (config : Config) (now : Nat) (ds : List Declaration) : Run :=
  ofOutcomes (ds.map fun d => d.outcome config.injectionMode fun c =>
    c.files (if config.timestamp then some now else none))

def check (config : Config) (ds : List Declaration) : Run :=
  ofOutcomes (ds.map fun d => d.outcome config.injectionMode fun _ => [])

end Run
end StateHolders
