import StateHolders.Store.Outcome

/-! A store in memory: texts under paths, in path order. A path keeps the spelling under which it
was stored first. -/

namespace StateHolders.Store

structure Memory where
  entries : List (Path × String)
deriving DecidableEq, Repr

namespace Memory

def empty : Memory := ⟨[]⟩

def get? (m : Memory) (p : Path) : Option String :=
  (m.entries.find? (·.1.components = p.components)).map Prod.snd

def size (m : Memory) : Nat := m.entries.length

def paths (m : Memory) : List Path := m.entries.map Prod.fst

def insertEntry (path : Path) (text : String) : List (Path × String) → List (Path × String)
  | [] => [(path, text)]
  | (p, t) :: entries =>
    if p.components = path.components then (p, text) :: entries
    else if path.le p then (path, text) :: (p, t) :: entries
    else (p, t) :: insertEntry path text entries

def insert (m : Memory) (path : Path) (text : String) : Memory :=
  ⟨insertEntry path text m.entries⟩

/-- A file that differs from the stored one in its stamp alone is not stored again. -/
def write : Write Memory := fun m f =>
  if (m.get? f.relativePath).map Source.withoutStamp = some f.stableText then (m, .ok .unchanged)
  else (m.insert f.relativePath f.text, .ok .written)

end Memory
end StateHolders.Store
