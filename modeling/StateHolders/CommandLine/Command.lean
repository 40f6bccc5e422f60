import StateHolders.CommandLine.Arguments
import StateHolders.ErrorCode.Explanation
import StateHolders.Generation
import StateHolders.Input
import StateHolders.Store.Directory

/-! The commands of the program, as functions of the arguments, the time and the file tree. -/

namespace StateHolders

structure Execution where
  success : Bool
  stdout : String
  stderr : String
  tree : FileTree
deriving Repr

namespace Execution

def status (e : Execution) : Nat := if e.success then 0 else 1

end Execution

structure Surroundings where
  tree : FileTree
  now : Nat
  isTerminal : Bool
deriving Repr

namespace Command

def version : String := "0.1.0-alpha.1"

def usage : String := ErrorCode.paragraphs
  ["rmbr: memoized factories and savers for annotated state holders",
   "",
   "Usage: rmbr <command> [options]",
   "",
   "Commands:",
   "  generate <input> -o <dir>  Generate units for every annotated class",
   "  check <input>              Validate declarations without generating",
   "  explain <code>             Explain an error code (e.g., E3002)",
   "  help                       Show this help message",
   "  version                    Show version information",
   "",
   "<input> is a declaration JSON file or a directory of them.",
   "",
   "Options:",
   "  -o, --output <dir>         Output root for generated files",
   "  --check                    Fail if generated files are out of date, write nothing",
   "  --injection=<mode>         Default injection mode: none, framework",
   "  --no-parallel              Process classes sequentially",
   "  --timestamp                Append a `// Generated at` line to each file",
   "  --option <key=value>       Processor option, e.g. rmbr.injectionType=koin",
   "  --color=<mode>             Diagnostic colors: auto, always, never",
   "",
   "Set RUST_LOG (e.g. RUST_LOG=debug) for tracing output."]

def explainUsage : String :=
  "Usage: rmbr explain <ERROR_CODE>\nExample: rmbr explain E3002\n"

def unknownCode (text : String) : String :=
  s!"Unknown error code: {text}\n\nCodes have the format EXXXX where X is a digit.\nExamples: E1001, E2001, E3002\n"

def missingOutput : String :=
  "error: missing output directory\nUsage: rmbr generate <input> -o <dir>\n"

def refusal (e : ConfigError) : String := s!"error: {e.message}\n\nRun `rmbr help` for usage.\n"

def report (env : Surroundings) (args : Arguments) (ds : List Diagnostic) : String :=
  Report.paint (args.color.usesColors env.isTerminal) (Report.full ds)

def outdatedDiagnostic (count : Nat) : Diagnostic where
  code := .writeError
  message := s!"{count} generated file" ++ (if count = 1 then " is" else "s are") ++ " out of date"

def outdated (s : Store.WriteSummary) : List Diagnostic :=
  if s.wouldWrite.isEmpty then [] else [outdatedDiagnostic s.wouldWrite.length]

def wouldWriteLines (root : Path) (paths : List Path) : String :=
  String.join (paths.map fun path => s!"would write: {(root.join path).text}\n")

def generationSummary (r : Run) (s : Store.WriteSummary) : String :=
  s!"{r.generated} classes generated ({s.written} written, {s.unchanged} unchanged), {r.failures.length} failed, {r.skipped.length} skipped\n"

/-- Files of classes that succeed are written also when other classes fail. -/
def generate (env : Surroundings) (args : Arguments) : Execution :=
  match args.output with
  | none => ⟨false, "", missingOutput, env.tree⟩
  | some root =>
    match Input.read env.tree args.input with
    | .error e => ⟨false, "", report env args [e.diagnostic], env.tree⟩
    | .ok ds =>
      let r := Run.generate args.config env.now ds
      let directory : Store.Directory := ⟨root, args.checkOnly⟩
      match Store.writeAll directory.write env.tree r.files with
      | (tree, .error e) => ⟨false, "", report env args (r.diagnostics ++ [e.diagnostic]), tree⟩
      | (tree, .ok s) =>
        ⟨r.success && s.wouldWrite.isEmpty, generationSummary r s,
          wouldWriteLines root s.wouldWrite ++ report env args (r.diagnostics ++ outdated s), tree⟩

def check (env : Surroundings) (args : Arguments) : Execution :=
  match Input.read env.tree args.input with
  | .error e => ⟨false, "", report env args [e.diagnostic], env.tree⟩
  | .ok ds =>
    let r := Run.check args.config ds
    let summary :=
      s!"OK: {args.input.text} ({r.generated} classes checked, {r.skipped.length} skipped)\n"
    ⟨r.success, if r.success then summary else "", report env args r.diagnostics, env.tree⟩

def explain (env : Surroundings) : List String → Execution
  | [] => ⟨false, "", explainUsage, env.tree⟩
  | text :: _ =>
    match ErrorCode.ofText? text with
    | some code => ⟨true, code.explanation ++ "\n", "", env.tree⟩
    | none => ⟨false, "", unknownCode text, env.tree⟩

def withArguments (env : Surroundings) (command : Surroundings → Arguments → Execution)
    (words : List String) : Execution :=
  match Arguments.parse words with
  | .ok args => command env args
  | .error e => ⟨false, "", refusal e, env.tree⟩

def run (env : Surroundings) : List String → Execution
  | [] => ⟨true, usage, "", env.tree⟩
  | command :: words =>
    if command = "generate" then withArguments env generate words
    else if command = "check" then withArguments env check words
    else if command = "explain" || command = "--explain" then explain env words
    else if command = "help" || command = "--help" || command = "-h" then
      ⟨true, usage, "", env.tree⟩
    else if command = "version" || command = "--version" || command = "-V" then
      ⟨true, s!"rmbr {version}\n", "", env.tree⟩
    else ⟨false, usage, s!"Unknown command: {command}\n\n", env.tree⟩

def paths : List String → List Path
  | [] => []
  | _ :: words =>
    match Arguments.parse words with
    | .ok args => args.input :: args.output.toList
    | .error _ => []

end Command
end StateHolders
