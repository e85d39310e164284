import SchemaLoom.Text.Lines

/-!
# Paths

A path is a text with slashes between its steps. An empty step and a step of one
point stay where they are, a step of two points goes up, and any other step is a
name. Reading a path as a list of names leaves out the steps that stay.

These are texts and lists of names only. Whether there is anything where a path
leads is a question for a tree.
-/

namespace SchemaLoom.Path

def steps (path : String) : List String :=
  (Text.splitBy (· = '/') path.toList).map String.ofList

/-- Whether a step stays where it is: nothing between two slashes, or a single
point. -/
def stays (step : String) : Bool := step = "" || step = "."

/-- The steps that do not stay. Going up is one of them, for it depends on the
tree where it leads. -/
def names (path : String) : List String := (steps path).filter fun step => !stays step

/-- The path to the directory that a path's last name is in. The steps between
the names before it are kept as they are written. -/
def parent (path : String) : String :=
  let cut (steps : List String) : List String := (steps.reverse.dropWhile stays).reverse
  Text.join "/" (cut (cut (steps path)).dropLast)

def maxBytes : Nat := 4095

/-- Whether a path can lead anywhere: it is not too long and holds no zero byte. -/
def isPossible (path : String) : Bool :=
  path.utf8ByteSize ≤ maxBytes && !path.toList.contains '\x00'

def isAbsolute (path : String) : Bool := path.toList.head? = some '/'

/-- The name that a path ends in; a path that goes up last has none. -/
def fileName? (path : String) : Option String :=
  (names path).getLast?.bind fun name => if name = ".." then none else some name

def cutAtPoint (name : List Char) : Option (List Char × List Char) :=
  match name.reverse.dropWhile (· ≠ '.') with
  | [] => none
  | _ :: before => some (before.reverse, (name.reverse.takeWhile (· ≠ '.')).reverse)

/-- A name without its extension; a point in front begins none. -/
def stemOf (name : String) : String :=
  match cutAtPoint name.toList with
  | some (c :: before, _) => String.ofList (c :: before)
  | _ => name

def extensionOf? (name : String) : Option String :=
  match cutAtPoint name.toList with
  | some (_ :: _, extension) => some (String.ofList extension)
  | _ => none

def stem? (path : String) : Option String := (fileName? path).map stemOf

def extension? (path : String) : Option String := (fileName? path).bind extensionOf?

end SchemaLoom.Path
