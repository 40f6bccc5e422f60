import StateHolders.CommandLine.Command
import Std.Time.DateTime.Timestamp

/-! The program. It takes a picture of the files that its arguments name, runs the command on the
picture, prints what the command printed, and carries out what the command changed. -/

namespace StateHolders.Program

def spelling (place : Place) : String := "/" ++ String.intercalate "/" place

def real (place : Place) := (· / spelling place) <$> IO.currentDir

def pictureNode (t : FileTree) (place : Place) : IO FileTree := do
  let path ← real place
  if place = [] then return t
  if ← path.isDir then return t.put place .directory
  if ← path.pathExists then return t.put place (.file (.ofBytes (← IO.FS.readBinFile path)))
  return t

partial def pictureUnder (t : FileTree) (place : Place) : IO FileTree := do
  let path ← real place
  let t ← pictureNode t place
  if ← path.isDir then
    (← path.readDir).foldlM (fun t entry => pictureUnder t (place ++ [entry.fileName])) t
  else return t

def picture (paths : List Path) : IO FileTree := do
  let here := ((← IO.currentDir).components).filter (· ≠ "")
  let places := paths.map (Path.place here)
  let above := (here :: places).flatMap fun place => (List.range place.length).map place.take
  let t ← above.foldlM pictureNode ⟨[], here⟩
  places.foldlM pictureUnder (← pictureNode t here)

def carryOut (before after : FileTree) : IO Unit :=
  after.nodes.forM fun (place, node) => do
    if before.node? place ≠ some node then
      match node with
      | .directory => IO.FS.createDirAll (spelling place)
      | .file (.text s) =>
        IO.FS.createDirAll (spelling place.dropLast)
        IO.FS.writeFile (spelling place) s
      | .file (.binary _) => return

end StateHolders.Program

open StateHolders StateHolders.Program in
def main (args : List String) : IO UInt32 := do
  let tree ← picture (Command.paths args)
  let now := (← Std.Time.Timestamp.now).toSecondsSinceUnixEpoch.val.toNat
  let e := Command.run ⟨tree, now, ← (← IO.getStderr).isTty⟩ args
  carryOut tree e.tree
  (← IO.getStdout).putStr e.stdout
  (← IO.getStderr).putStr e.stderr
  return UInt32.ofNat e.status
