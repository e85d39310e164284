import SchemaLoom.Json.Basic

/-!
# Type expressions

A type expression is what a schema node says in the terms of declarations. An
object with declared properties carries the name of the interface that declares
it.
-/

namespace SchemaLoom

/-- What a declared property is, apart from its type: its key, whether it must
be given, and what it is for. -/
structure Property where
  key : String
  required : Bool
  description : Option String
  deriving DecidableEq, Repr

/-- A type expression. `unknown` is anything and `map` an object with any keys;
a string is one of its choices, or any string if there are none; an object has
declared properties under the name of its interface; `nullable` is what a type
is, or null. -/
inductive TypeExpr where
  | unknown
  | boolean
  | integer
  | number
  | string (choices : List String)
  | array (item : TypeExpr)
  | map
  | object (name : String) (fields : List (Property × TypeExpr))
  | nullable (inner : TypeExpr)
  deriving Repr, Inhabited

end SchemaLoom
