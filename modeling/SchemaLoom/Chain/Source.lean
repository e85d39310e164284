import SchemaLoom.FileTree.Basic
import SchemaLoom.Json.Reader
import SchemaLoom.Schema.Merge
import SchemaLoom.Schema.Shape

/-!
# Schema files

A schema is read from a file that must exist, and laid under one that need not.
A file that holds `null` or an object without keys is empty: then the overlay
alone is the schema, and one of the two must hold something.

What is loaded is checked at once: a base or an overlay that is no schema is
refused with the place of the node at fault. An empty base is not checked, and a
missing overlay is none.
-/

namespace SchemaLoom

def FileTree.readJson (tree : FileTree) (path : String) : Except Failure Json :=
  match tree.read path with
  | .error failure => .error failure
  | .ok text => (Json.parse text).mapError (.unreadable path)

def FileTree.readSource (tree : FileTree) (path : String) : Except Failure Json :=
  if tree.pathExists path then tree.readJson path else .error (.sourceNotFound path)

def FileTree.readOverlay (tree : FileTree) (path : Option String) :
    Except Failure (Option Json) :=
  match path with
  | none => .ok none
  | some path => if tree.pathExists path then (tree.readJson path).map some else .ok none

namespace Schema

/-- Whether a document says nothing, so that an overlay alone can make the schema. -/
def isEmptyDocument : Json → Bool
  | .null | .object [] => true
  | _ => false

def checked (document : Json) : Except Failure (Fields Json) :=
  match validate document with
  | .error fault => .error (.shape fault)
  | .ok () => .ok (document.object?.getD [])

def overlay (policy : Policy) (path : String) (base : Json) (overlay : Option Json) :
    Except Failure Json :=
  if isEmptyDocument base && overlay.all isEmptyDocument then .error (.emptySource path)
  else
    match if isEmptyDocument base then .ok [] else checked base with
    | .error failure => .error failure
    | .ok base =>
      match overlay with
      | none => .ok (.object base)
      | some overlay => (checked overlay).map fun fields => .object (merge policy base fields)

/-- The schema in the file that a path leads to, under the one in another file.
The base may be empty if the overlay is not; otherwise both must have the shape
of a schema. -/
def load (tree : FileTree) (policy : Policy) (path : String) (overlayPath : Option String) :
    Except Failure Json :=
  match tree.readSource path with
  | .error failure => .error failure
  | .ok base =>
    match tree.readOverlay overlayPath with
    | .error failure => .error failure
    | .ok other => overlay policy path base other

end Schema
end SchemaLoom
