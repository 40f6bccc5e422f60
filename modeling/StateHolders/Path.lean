import StateHolders.Text.Cut

/-! Paths. A path keeps its spelling; two spellings name one path if their components agree, and
paths are ordered component by component. Repeated separators and inner dots are no components. -/

namespace StateHolders

structure Path where
  text : String
deriving DecidableEq, Repr

namespace Path

inductive Component where
  | root
  | current
  | parent
  | name (name : String)
deriving DecidableEq, Repr

def segments (p : Path) : List String := (p.text.toList.splitOn '/').map String.ofList

def isAbsolute (p : Path) : Bool := p.text.toList.head? = some '/'

def ofSegments (segments : List String) : Path :=
  if segments = [""] then ⟨"/"⟩ else ⟨String.intercalate "/" segments⟩

def Component.ofSegment? : String → Option Component
  | "" | "." => none
  | ".." => some .parent
  | s => some (.name s)

def steps (p : Path) : List Component := p.segments.filterMap Component.ofSegment?

/-- A dot counts only as the first segment. -/
def components (p : Path) : List Component :=
  match p.segments with
  | [] => []
  | "" :: rest => (if p.isAbsolute then [.root] else []) ++ rest.filterMap Component.ofSegment?
  | "." :: rest => .current :: rest.filterMap Component.ofSegment?
  | segments => segments.filterMap Component.ofSegment?

/-- Follows `q` from `p`; an absolute `q` replaces `p`. -/
def join (p q : Path) : Path :=
  if q.isAbsolute then q
  else if p.text = "" || p.text.toList.getLast? = some '/' then ⟨p.text ++ q.text⟩
  else ⟨p.text ++ "/" ++ q.text⟩

def below (p : Path) (names : List String) : Path :=
  names.foldl (fun path name => path.join ⟨name⟩) p

/-- The path whose segments, the last one first, are given, and the paths above it, up to the
first segment. -/
def ancestors : List String → List Path
  | [] => []
  | s :: rest =>
    if s = "" || s = "." && rest ≠ [] then ancestors rest
    else ofSegments (s :: rest).reverse :: ancestors rest

def parents (p : Path) : List Path := (ancestors p.segments.reverse).drop 1

def Component.key : Component → Nat × String
  | .root => (0, "")
  | .current => (1, "")
  | .parent => (2, "")
  | .name s => (3, s)

def Component.precedes (a b : Component) : Bool :=
  a.key.1 < b.key.1 || a.key.1 = b.key.1 && a.key.2 < b.key.2

def leComponents : List Component → List Component → Bool
  | [], _ => true
  | _ :: _, [] => false
  | a :: as, b :: bs => if a = b then leComponents as bs else a.precedes b

def le (p q : Path) : Bool := leComponents p.components q.components

/-- The part of a file name after its last dot; the dot must not be the first character. -/
def extension? (name : String) : Option String :=
  let s := name.toList
  if Text.beforeLast '.' s = [] then none else some (String.ofList (Text.afterLast '.' s))

end Path
end StateHolders
