import SchemaLoom.CommandLine.Run

/-!
# The program

The files that a command looks at are read into a tree, the command runs on the
tree, and the files that it changed are written. All that is decided is decided
by the command.
-/

namespace SchemaLoom.Main

def readPath (tree : FileTree) (path : String) : IO FileTree := do
  let place := (← IO.currentDir) / path
  if ← place.isDir then
    return (tree.makeDirectories (Place.start path) (Path.names path)).1
  try
    let bytes ← IO.FS.readBinFile place
    return (tree.write path (.ofBytes bytes.toList)).1
  catch _ => return tree

/-- Reads all files of the working directory into a tree, for a command that
runs a program: such a program may look at any of them. -/
def readAll (tree : FileTree) : IO FileTree := do
  let root ← IO.currentDir
  let places ← root.walkDir
  places.foldlM
    (fun tree place => do
      match Text.afterPattern (root.toString ++ "/").toList place.toString.toList with
      | some path => readPath tree (String.ofList path)
      | none => return tree)
    tree

def readEnvironment : IO (List (String × String)) :=
  CommandLine.settingsVariables.filterMapM fun name => do
    return (← IO.getEnv name).map (name, ·)

def writePath (path : String) (content : Content) : IO Unit := do
  let place := (← IO.currentDir) / path
  if let some directory := place.parent then
    IO.FS.createDirAll directory
  match content with
  | .text s => IO.FS.writeFile place s
  | .binary bytes => IO.FS.writeBinFile place ⟨bytes.toArray⟩

/-- Runs a command on the files of the working directory and writes back what
changed. -/
def run (command : CommandLine.Command) : IO UInt32 := do
  let environment ← readEnvironment
  let known ← command.settingsPaths.foldlM readPath .empty
  let known ← if command.runsProgram environment known then readAll known else pure known
  let tree ← (command.paths environment known).foldlM readPath known
  let ended := command.run environment tree
  for file in ended.tree.files do
    if tree.file? file.1 ≠ some file.2 then
      writePath file.1.toPath file.2
  IO.print ended.output
  match ended.result with
  | .ok () => return 0
  | .error failure =>
    IO.eprintln ("error: " ++ failure.message)
    return 1

end SchemaLoom.Main

def main (args : List String) : IO UInt32 := do
  match SchemaLoom.CommandLine.read args with
  | .ok command => SchemaLoom.Main.run command
  | .error refusal =>
    IO.println refusal.message
    return refusal.status.toUInt32
