import SchemaLoom.Shell.Machine
import SchemaLoom.Shell.State

/-!
# Locations

Where a path leads to from the working directory of a shell. The directory that
all files are in has a place of its own under the root, so that a path from the
root can lead there as well.

Paths are followed as POSIX resolves path names, step by step from the root or
from the working directory. There are no symbolic links.
-/

namespace SchemaLoom.Shell

/-- Why a path leads nowhere, or to nothing that can be opened: there is no file
or a directory, there is one where none may be, the path goes on behind a file
or has a name that is too long, or the device that it stands for is not there. -/
inductive OpenFault where
  | missing
  | throughFile
  | isDirectory
  | nameTooLong
  | exists
  | noDevice
  deriving DecidableEq, Repr

/-- The name of the directory that all files are in. -/
def workName : String := "work"

/-- The name of the directory above, which is under the root. -/
def aboveName : String := "tmp"

/-- A place by the shortest way from the directory that all files are in. -/
def settled (place : Place) : Place :=
  if place = ["/", aboveName] then [".."]
  else if place = ["..", ".."] then ["/"]
  else if place = ["..", workName] then []
  else place

/-- The place that steps lead to; every step starts from a directory. -/
def walk (tree : FileTree) (here : Place) : List String → Except OpenFault Place
  | [] => .ok here
  | step :: rest =>
    if !tree.isDirectory here then
      .error (if (tree.file? here).isSome then .throughFile else .missing)
    else if !FileTree.isPossibleName step then .error .nameTooLong
    else if Path.stays step then walk tree here rest
    else walk tree (settled (if step = ".." then here.up else here ++ [step])) rest

/-- The names on the way from the root to a place. -/
def namesFromRoot (place : Place) : List String :=
  match place with
  | "/" :: names => names
  | ".." :: names => aboveName :: names
  | names => aboveName :: workName :: names

def pathFromRoot (names : List String) : String := "/" ++ Text.join "/" names

def absolutePath (place : Place) : String := pathFromRoot (namesFromRoot place)

/-- The path from the root that a path from a place is as it is written: two
points take the name before them away, whether there is such a directory or not. -/
def writtenPath (here : Place) (path : String) : String :=
  let step (names : List String) (step : String) : List String :=
    if step = ".." then names.dropLast else if Path.stays step then names else names ++ [step]
  pathFromRoot <|
    (Path.steps path).foldl step (if Path.isAbsolute path then [] else namesFromRoot here)

/-- The place that a path leads to, where nothing need be. -/
def Session.locate (shell : Session) (path : List Char) : Except OpenFault Place :=
  let text := toText path
  if text = "" then .error .missing
  else if !Path.isPossible text then .error .nameTooLong
  else walk shell.world.tree (shell.directory.startOf text) (Path.steps text)

/-- Whether a file or a directory is at a place. -/
def World.hasAt (world : World) (place : Place) : Bool :=
  let path := absolutePath place
  world.tree.occupied place || isProgramAt path || usualFiles.contains path

/-- Whether a path leads to a file or a directory. -/
def Session.isThere (shell : Session) (path : List Char) : Bool :=
  match shell.locate path with
  | .ok place => shell.world.hasAt place
  | .error _ => false

end SchemaLoom.Shell
