import SchemaLoom.TypeExpr.Basic

/-!
# Names of interfaces

The root keeps the name it is given. Every other object asks for the name of the
object around it, followed by its key in Pascal case and by `Item` for each
array in between. If an earlier object, or the root, has that name, the first
free number from two on is added. Objects are named before the objects inside
them, in the order of their properties.

The names taken so far are handed from object to object, and the search for a
free number ends since only so many names are taken.
-/

namespace SchemaLoom.TypeExpr

def pascalChars : Bool → List Char → List Char
  | _, [] => []
  | atStart, c :: rest =>
    if c.isAlphanum then (if atStart then c.toUpper else c) :: pascalChars false rest
    else pascalChars true rest

/-- A key as part of a name: its ASCII letters and digits, every run of them
with a capital. Keys that differ only in other characters become the same. -/
def pascalCase (key : String) : String := String.ofList (pascalChars true key.toList)

/-- The wanted name, or the first free one of those numbered from two on. Of as
many numbers as there are names taken and one more, at least one is free. -/
def claim (taken : List String) (wanted : String) : String :=
  if taken.contains wanted then
    (((List.range (taken.length + 1)).map fun n => wanted ++ toString (n + 2)).find?
      fun name => !taken.contains name).getD wanted
  else wanted

mutual

/-- Names the objects of a type, given the names that are taken, and gives those
that are taken then. The root takes the wanted name as it is. -/
def assign (isRoot : Bool) (wanted : String) (taken : List String) :
    TypeExpr → TypeExpr × List String
  | .array item =>
    let (item, taken) := assign false (wanted ++ "Item") taken item
    (.array item, taken)
  | .nullable inner =>
    let (inner, taken) := assign isRoot wanted taken inner
    (.nullable inner, taken)
  | .object _ fields =>
    let name := if isRoot then wanted else claim taken wanted
    let (fields, taken) := assignFields name (name :: taken) fields
    (.object name fields, taken)
  | other => (other, taken)
termination_by structural type => type

def assignFields (owner : String) (taken : List String) :
    List (Property × TypeExpr) → List (Property × TypeExpr) × List String
  | [] => ([], taken)
  | (property, type) :: rest =>
    let (type, taken) := assign false (owner ++ pascalCase property.key) taken type
    let (rest, taken) := assignFields owner taken rest
    ((property, type) :: rest, taken)
termination_by structural fields => fields

end

/-- The type with all objects named, the root by the given name, which nothing
else gets. -/
def named (root : String) (type : TypeExpr) : TypeExpr := (assign true root [root] type).1

end SchemaLoom.TypeExpr
