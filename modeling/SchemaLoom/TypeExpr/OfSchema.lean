import SchemaLoom.Schema.Kind
import SchemaLoom.Schema.Node
import SchemaLoom.TypeExpr.Naming

/-!
# The type expression of a schema

Every node that is visited must declare its kind. An array is visited through
its `items`, if they are an object, and an object through its properties, if it
has any; an object without is open to any key. The structure comes first, with
every name left blank, and then the names are given out.

What a node says besides its kind decides the rest: choices make a string one of
them, and a node may say that it is nullable.
-/

namespace SchemaLoom.TypeExpr

open Schema

/-- The strings that a string node lists under `enum`. Other values in the list
are passed over, and a node with none left is any string. -/
def choicesOf (node : Fields Json) : List String :=
  ((node.get? "enum").map Json.strings).getD []

def isNullable (node : Fields Json) : Bool :=
  ((node.get? "nullable").bind Json.bool?).getD false

def orNull (node : Fields Json) (type : TypeExpr) : TypeExpr :=
  if isNullable node then .nullable type else type

/-- What a property of this key and node is, apart from its type. It must be
given if the object around it says so, even if it has a default. -/
def propertyOf (required : List String) (key : String) (node : Json) : Property :=
  ⟨key, required.contains key, (node.get? "description").bind Json.string?⟩

mutual

/-- The structure of a node, all names left blank. An object without properties
is a map, and an array whose `items` are no object has items of which nothing is
known. -/
def ofNode : Json → Except ShapeFault TypeExpr
  | .object fields =>
    match topKind (.object fields) with
    | .error fault => .error fault
    | .ok .boolean => .ok (orNull fields .boolean)
    | .ok .integer => .ok (orNull fields .integer)
    | .ok .number => .ok (orNull fields .number)
    | .ok .string => .ok (orNull fields (.string (choicesOf fields)))
    | .ok .array => (itemIn fields).map fun item => orNull fields (.array item)
    | .ok .object => (objectIn (requiredOf fields) fields).map (orNull fields)
  | _ => .error ⟨[], .untyped⟩
termination_by structural node => node

def itemIn : List (String × Json) → Except ShapeFault TypeExpr
  | [] => .ok .unknown
  | (key, value) :: rest =>
    if key = "items" then
      if value.isObject then (ofNode value).mapError (·.under ["items"]) else .ok .unknown
    else itemIn rest
termination_by structural fields => fields

def objectIn (required : List String) : List (String × Json) → Except ShapeFault TypeExpr
  | [] => .ok .map
  | (key, value) :: rest =>
    if key = "properties" then
      match value with
      | .object (child :: children) => (fieldsOf required (child :: children)).map (.object "")
      | _ => .ok .map
    else objectIn required rest
termination_by structural fields => fields

def fieldsOf (required : List String) :
    List (String × Json) → Except ShapeFault (List (Property × TypeExpr))
  | [] => .ok []
  | (key, node) :: rest =>
    match ofNode node with
    | .error fault => .error (fault.under ["properties", key])
    | .ok type => (fieldsOf required rest).map ((propertyOf required key node, type) :: ·)
termination_by structural children => children

end

/-- The type expression of a schema, with the root under the given name. Where a
node declares no kind, the fault is placed in the schema. -/
def ofSchema (root : String) (schema : Json) : Except ShapeFault TypeExpr :=
  (ofNode schema).map (named root)

end SchemaLoom.TypeExpr
