import StateHolders.Declaration.Decode
import StateHolders.Json.Reader
import StateHolders.FileTree
import StateHolders.Diagnostic.Basic

/-! Declarations from a file, or from every file with the extension `json` at any depth under a
directory, in path order. The first file that cannot be read or decoded is the answer. -/

namespace StateHolders

inductive InputError where
  | unreadable (path : Path) (cause : FileError)
  | notJson (path : Path)
  | notDeclarations (path : Path) (cause : DecodeError)
deriving Repr

namespace InputError

def path : InputError → Path
  | .unreadable path _ => path
  | .notJson path => path
  | .notDeclarations path _ => path

def notJsonReason : String := "not well-formed JSON"

def message : InputError → String
  | .unreadable path cause => s!"cannot read `{path.text}`: {cause.message}"
  | .notJson path => s!"invalid declaration JSON in `{path.text}`: {notJsonReason}"
  | .notDeclarations path cause =>
    s!"invalid declaration JSON in `{path.text}`: {cause.message}"

def diagnostic (e : InputError) : Diagnostic where
  code := .inputError
  message := e.message
  labels := [.primary e.path.text none "declaration input"]

end InputError

namespace Input

def parse (path : Path) (text : String) : Except InputError (List Declaration) :=
  match Json.parse? text with
  | none => .error (.notJson path)
  | some value => (Decode.declarations value).mapError (.notDeclarations path)

def readFile (t : FileTree) (path : Path) : Except InputError (List Declaration) :=
  match t.readText path with
  | .error cause => .error (.unreadable path cause)
  | .ok text => parse path text

def isJsonFile (p : Path) : Bool := (p.segments.getLast?.bind Path.extension?) = some "json"

def filePaths (t : FileTree) (p : Path) : List Path := (t.leaves p).filter isJsonFile

def read (t : FileTree) (p : Path) : Except InputError (List Declaration) :=
  if t.isDirectory p then do
    return (← (filePaths t p).mapM (readFile t)).flatten
  else readFile t p

end Input
end StateHolders
