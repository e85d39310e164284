import SchemaLoom.FileTree.Path
import SchemaLoom.Failure
import SchemaLoom.Text.Utf8

/-!
# File trees

A file tree holds directories and files at places. A place is the list of names
that lead to it from the working directory; a place above that directory begins
with two points, and a place under the root of all files begins with a slash.
Following a path step by step needs a directory wherever the path goes on, even
if the next step stays.

Writing makes the directories on the way, and may leave some of them behind
where it is refused. Files hold bytes; a text is read from them only if they are
UTF-8.
-/

namespace SchemaLoom

/-- What a file holds: characters, or bytes that are no UTF-8. -/
inductive Content where
  | text (s : String)
  | binary (bytes : List UInt8)
  deriving DecidableEq, Repr

namespace Content

/-- What a file with the bytes holds. Bytes that are UTF-8 always count as
characters. -/
def ofBytes (bytes : List UInt8) : Content :=
  match Text.Utf8.decode bytes with
  | .ok s => .text s
  | .error _ => .binary bytes

def lossy : Content → String
  | .text s => s
  | .binary bytes => Text.Utf8.decodeLossy bytes

end Content

/-- Names that lead from the working directory. A place above it begins with two
points, and one under the root of all files with a slash. -/
abbrev Place := List String

namespace Place

def up (place : Place) : Place :=
  match place.getLast? with
  | none | some ".." => place ++ [".."]
  | some "/" => place
  | some _ => place.dropLast

def usual : List Place :=
  [["bin"], ["boot"], ["dev"], ["dev", "fd"], ["dev", "pts"], ["dev", "shm"], ["etc"], ["home"],
    ["lib"], ["lib64"], ["media"], ["mnt"], ["opt"], ["proc"], ["root"], ["run"], ["sbin"], ["srv"],
    ["sys"], ["tmp"], ["usr"], ["usr", "bin"], ["usr", "games"], ["usr", "include"], ["usr", "lib"],
    ["usr", "local"], ["usr", "local", "bin"], ["usr", "local", "etc"], ["usr", "local", "include"],
    ["usr", "local", "lib"], ["usr", "local", "sbin"], ["usr", "local", "share"], ["usr", "sbin"],
    ["usr", "share"], ["usr", "src"], ["var"], ["var", "backups"], ["var", "cache"], ["var", "lib"],
    ["var", "local"], ["var", "lock"], ["var", "log"], ["var", "mail"], ["var", "opt"],
    ["var", "run"], ["var", "spool"], ["var", "tmp"]].map ("/" :: ·)

def isBase (place : Place) : Bool := place = ["/"] || place.all (· = "..")

def isFixed (place : Place) : Bool := place.isBase || usual.contains place

def isInside (place : Place) : Bool := place.head? ≠ some ".." && place.head? ≠ some "/"

def toPath (place : Place) : String := Text.join "/" place

/-- Where following a path starts: at the root if the path is absolute, and in
the working directory otherwise. -/
def start (path : String) : Place := if Path.isAbsolute path then ["/"] else []

def startOf (here : Place) (path : String) : Place :=
  if Path.isAbsolute path then ["/"] else here

end Place

/-- Directories and files. The fixed directories are not listed, and nothing
keeps a file and a directory apart but the operations on trees. -/
structure FileTree where
  directories : List Place
  files : List (Place × Content)
  deriving Repr

namespace FileTree

def empty : FileTree := ⟨[], []⟩

def file? (tree : FileTree) (place : Place) : Option Content := tree.files.lookup place

def isDirectory (tree : FileTree) (place : Place) : Bool :=
  place.isFixed || tree.directories.contains place

def occupied (tree : FileTree) (place : Place) : Bool :=
  tree.isDirectory place || (tree.file? place).isSome

def put (tree : FileTree) (place : Place) (content : Content) : FileTree :=
  { tree with files := (place, content) :: tree.files.filter (·.1 ≠ place) }

def addDirectory (tree : FileTree) (place : Place) : FileTree :=
  { tree with directories := place :: tree.directories }

/-- The place that steps lead to; every step starts from a directory. -/
def follow (tree : FileTree) (here : Place) : List String → Option Place
  | [] => some here
  | step :: rest =>
    if tree.isDirectory here then
      if Path.stays step then tree.follow here rest
      else if step = ".." then tree.follow here.up rest
      else tree.follow (here ++ [step]) rest
    else none

def leadsThroughFile (tree : FileTree) (here : Place) : List String → Bool
  | [] => false
  | step :: rest =>
    if tree.isDirectory here then
      if Path.stays step then tree.leadsThroughFile here rest
      else if step = ".." then tree.leadsThroughFile here.up rest
      else tree.leadsThroughFile (here ++ [step]) rest
    else (tree.file? here).isSome

/-- The place that a path leads to from a directory, where nothing need be. -/
def findFrom? (tree : FileTree) (here : Place) (path : String) : Option Place :=
  if path = "" || !Path.isPossible path then none
  else tree.follow (here.startOf path) (Path.steps path)

def find? (tree : FileTree) (path : String) : Option Place := tree.findFrom? [] path

def namesIn (tree : FileTree) (here : Place) : List String :=
  let places := Place.usual ++ tree.directories ++ tree.files.map (·.1)
  places.filterMap fun place =>
    if place.dropLast = here && !place.isBase then place.getLast? else none

def pathExists (tree : FileTree) (path : String) : Bool := (tree.find? path).any tree.occupied

def isFile (tree : FileTree) (path : String) : Bool :=
  (tree.find? path).any fun place => (tree.file? place).isSome

/-- The text of the file that a path leads to. A file that holds no UTF-8 cannot
be read. -/
def read (tree : FileTree) (path : String) : Except Failure String :=
  match (tree.find? path).bind tree.file? with
  | some (.text s) => .ok s
  | _ => .error .fileAccess

def isPossibleName (name : String) : Bool :=
  name.utf8ByteSize ≤ 255 && !name.toList.contains '\x00'

/-- Makes the directories that names lead through, where they are missing. It
stops, with `false`, at a file and at a name that nothing can have. -/
def makeDirectories (tree : FileTree) (here : Place) : List String → FileTree × Bool
  | [] => (tree, true)
  | name :: rest =>
    let next := if name = ".." then here.up else here ++ [name]
    if tree.isDirectory next then tree.makeDirectories next rest
    else if (tree.file? next).isSome || !isPossibleName name then (tree, false)
    else (tree.addDirectory next).makeDirectories next rest

/-- Makes the directories on the way to a file. None is made if the path to the
last of them can lead nowhere. -/
def makeParents (tree : FileTree) (path : String) : FileTree × Bool :=
  if Path.isPossible (Path.parent path) then
    tree.makeDirectories (Place.start path) (Path.names path).dropLast
  else (tree, false)

/-- Writes a file that a path leads to, and makes the directories on the way
first. These stay even if the file itself cannot be written. -/
def write (tree : FileTree) (path : String) (content : Content) :
    FileTree × Except Failure Unit :=
  let names := Path.names path
  let made := tree.makeParents path
  if made.2 then
    match made.1.find? path with
    | some place =>
      if made.1.isDirectory place || !names.getLast?.all isPossibleName then
        (made.1, .error .fileAccess)
      else (made.1.put place content, .ok ())
    | none => (made.1, .error .fileAccess)
  else (made.1, .error .fileAccess)

/-- The files inside the working directory that are new or hold something else
than before. -/
def changes (before after : FileTree) : List (String × Content) :=
  (after.files.filter fun p => p.1.isInside && before.file? p.1 ≠ some p.2).map fun p =>
    (p.1.toPath, p.2)

@[simp] theorem file?_put_self (tree : FileTree) (place : Place) (content : Content) :
    (tree.put place content).file? place = some content := by
  simp [put, file?]

theorem file?_put_of_ne (tree : FileTree) {place other : Place} (content : Content)
    (h : other ≠ place) : (tree.put place content).file? other = tree.file? other := by
  have hb : (other == place) = false := by simpa using h
  simp only [put, file?, List.lookup_cons, hb]
  induction tree.files with
  | nil => rfl
  | cons p rest ih =>
    obtain ⟨q, c⟩ := p
    by_cases hq : q = place
    · subst hq
      simpa [List.lookup_cons, hb] using ih
    · simp only [hq, ne_eq, not_false_eq_true, decide_true, List.filter_cons_of_pos,
        List.lookup_cons]
      split <;> first | rfl | exact ih

@[simp] theorem file?_addDirectory (tree : FileTree) (place other : Place) :
    (tree.addDirectory place).file? other = tree.file? other := rfl

@[simp] theorem file?_makeDirectories (tree : FileTree) (here : Place) (names : List String)
    (place : Place) : (tree.makeDirectories here names).1.file? place = tree.file? place := by
  induction names generalizing tree here with
  | nil => rfl
  | cons name rest ih =>
    simp only [makeDirectories]
    split <;> split <;> (try split) <;> simp [ih]

/-- Making the directories on the way to a file leaves the files as they were. -/
@[simp] theorem file?_makeParents (tree : FileTree) (path : String) (place : Place) :
    (tree.makeParents path).1.file? place = tree.file? place := by
  simp only [makeParents]
  split <;> simp

end FileTree
end SchemaLoom
