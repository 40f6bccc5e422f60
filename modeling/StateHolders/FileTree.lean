import StateHolders.Path
import StateHolders.Text.Utf8

/-! A tree of files and directories. The tree is a list of places with what is there; paths are
followed from a working directory, one segment at a time, as an operating system follows them. An
operation that fails leaves the tree as it was. -/

namespace StateHolders

abbrev Place := List String

namespace Path

def Component.follow (place : Place) : Component → Place
  | .parent => place.dropLast
  | .name s => place ++ [s]
  | .root | .current => place

/-- The place that the path names, when it is followed from a working directory. -/
def place (workingDirectory : Place) (p : Path) : Place :=
  p.steps.foldl Component.follow (if p.isAbsolute then [] else workingDirectory)

end Path

inductive Content where
  | text (s : String)
  | binary (bytes : List UInt8)
deriving DecidableEq, Repr

namespace Content

def ofBytes (bytes : ByteArray) : Content :=
  match String.fromUTF8? bytes with
  | some s => .text s
  | none => .binary bytes.toList

def display : Content → String
  | .text s => s
  | .binary bytes => Text.decodeLossy bytes

end Content

inductive Node where
  | file (content : Content)
  | directory
deriving DecidableEq, Repr

inductive FileError where
  | notFound
  | alreadyExists
  | notDirectory
  | isDirectory
  | nameTooLong
  | nulInPath
  | notText
deriving DecidableEq, Repr

def FileError.message : FileError → String
  | .notFound => "No such file or directory (os error 2)"
  | .alreadyExists => "File exists (os error 17)"
  | .notDirectory => "Not a directory (os error 20)"
  | .isDirectory => "Is a directory (os error 21)"
  | .nameTooLong => "File name too long (os error 36)"
  | .nulInPath => "file name contained an unexpected NUL byte"
  | .notText => "stream did not contain valid UTF-8"

structure FileTree where
  nodes : List (Place × Node)
  workingDirectory : Place
deriving Repr

namespace FileTree

def empty : FileTree := ⟨[], []⟩

/-- The root is always there. -/
def node? (t : FileTree) (place : Place) : Option Node :=
  if place = [] then some .directory else t.nodes.lookup place

def put (t : FileTree) (place : Place) (node : Node) : FileTree :=
  { t with nodes := (place, node) :: t.nodes.filter (·.1 ≠ place) }

def step (t : FileTree) (place : Place) (segment : String) : Except FileError Place :=
  match t.node? place with
  | none => .error .notFound
  | some (.file _) => .error .notDirectory
  | some .directory =>
    if segment = "" || segment = "." then .ok place
    else if segment = ".." then .ok place.dropLast
    else if 255 < segment.utf8ByteSize then .error .nameTooLong
    else .ok (place ++ [segment])

def walk (t : FileTree) (place : Place) : List String → Except FileError Place
  | [] => .ok place
  | s :: segments => t.step place s >>= fun next => t.walk next segments

/-- The place that a path names; nothing need be there, but the directories above it must be. -/
def locate (t : FileTree) (p : Path) : Except FileError Place :=
  if '\x00' ∈ p.text.toList then .error .nulInPath
  else if p.text = "" then .error .notFound
  else if 4096 ≤ p.text.utf8ByteSize then .error .nameTooLong
  else t.walk (if p.isAbsolute then [] else t.workingDirectory) p.segments

def isDirectory (t : FileTree) (p : Path) : Bool :=
  match t.locate p with
  | .ok place => t.node? place = some .directory
  | .error _ => false

def readText (t : FileTree) (p : Path) : Except FileError String := do
  match t.node? (← t.locate p) with
  | none => .error .notFound
  | some .directory => .error .isDirectory
  | some (.file (.text s)) => .ok s
  | some (.file (.binary _)) => .error .notText

def makeDirectory (t : FileTree) (p : Path) : Except FileError FileTree := do
  let place ← t.locate p
  match t.node? place with
  | some _ => .error .alreadyExists
  | none => .ok (t.put place .directory)

def writeText (t : FileTree) (p : Path) (text : String) : Except FileError FileTree := do
  let place ← t.locate p
  match t.node? place with
  | some .directory => .error .isDirectory
  | _ => .ok (t.put place (.file (.text text)))

/-- Makes the first directory of a list, and those after it first where they are missing. Those
that could be made stay when one of them cannot. -/
def makeDirectories (t : FileTree) : List Path → FileTree × Except FileError Unit
  | [] => (t, .ok ())
  | p :: above =>
    match t.makeDirectory p with
    | .ok t' => (t', .ok ())
    | .error .notFound =>
      match t.makeDirectories above with
      | (t', .error e) => (t', .error e)
      | (t', .ok ()) =>
        match t'.makeDirectory p with
        | .ok t'' => (t'', .ok ())
        | .error e => (t', if t'.isDirectory p then .ok () else .error e)
    | .error e => (t, if t.isDirectory p then .ok () else .error e)

def under (t : FileTree) (directory : Place) : List (Place × Node) :=
  t.nodes.filterMap fun (place, node) =>
    if directory.isPrefixOf place && place ≠ directory then
      some (place.drop directory.length, node)
    else none

def content? : Place × Node → Option (Place × Content)
  | (names, .file content) => some (names, content)
  | (_, .directory) => none

def files (t : FileTree) (p : Path) : List (Path × Content) :=
  match t.locate p with
  | .ok place =>
    (((t.under place).filterMap content?).map fun (names, content) =>
      (p.below names, content)).mergeSort fun a b => a.1.le b.1
  | .error _ => []

/-- Whether names lead from a directory to an entry that a walk down the directories meets and
cannot enter. A directory whose path is too long is such an entry, and what is under it is not. -/
def isLeaf (t : FileTree) (p : Path) (names : Place) : Bool :=
  (((List.range names.length).drop 1).all fun n => t.isDirectory (p.below (names.take n))) &&
    !t.isDirectory (p.below names)

def leaves (t : FileTree) (p : Path) : List Path :=
  match t.locate p with
  | .ok place =>
    ((((t.under place).map Prod.fst).filter (t.isLeaf p)).map p.below).mergeSort Path.le
  | .error _ => []

def plant (t : FileTree) (place : Place) (node : Node) : FileTree :=
  (above.foldl (fun t place => if (t.node? place).isNone then t.put place .directory else t) t).put
    place node
where
  above : List Place := (List.range place.length).map place.take

end FileTree
end StateHolders
