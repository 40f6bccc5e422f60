import StateHolders.Store.Outcome

/-! A store in a directory of a file tree. A file that is there already and differs in its stamp
alone is left as it is; in check mode nothing is written. -/

namespace StateHolders.Store

structure Directory where
  root : Path
  checkOnly : Bool
deriving DecidableEq, Repr

namespace Directory

def pathOf (d : Directory) (f : Source.File) : Path := d.root.join f.relativePath

/-- Whether the stored text differs from that of `f` at most in its stamp. -/
def isUnchanged (d : Directory) (t : FileTree) (f : Source.File) : Bool :=
  match t.readText (d.pathOf f) with
  | .ok text => Source.withoutStamp text = f.stableText
  | .error _ => false

def store (t : FileTree) (path : Path) (text : String) :
    FileTree × Except WriteError WriteOutcome :=
  match t.makeDirectories path.parents with
  | (t', .error cause) => (t', .error (.createDirectory (path.parents.headD ⟨""⟩) cause))
  | (t', .ok ()) =>
    match t'.writeText path text with
    | .ok t'' => (t'', .ok .written)
    | .error cause => (t', .error (.write path cause))

def write (d : Directory) : Write FileTree := fun t f =>
  if d.isUnchanged t f then (t, .ok .unchanged)
  else if d.checkOnly then (t, .ok .wouldWrite)
  else store t (d.pathOf f) f.text

end Directory
end StateHolders.Store
