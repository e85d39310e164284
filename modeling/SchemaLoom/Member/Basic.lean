import SchemaLoom.Json.Writer

/-!
# Members of a declared type

A member of an interface has a key, a type as it is written in the declaration,
and a mark that says whether it may be left out.
-/

namespace SchemaLoom

/-- A member of an interface: its key without quotes, its type as written and
not taken apart, and whether it may be left out. -/
structure Member where
  key : String
  declaredType : String
  optional : Bool
  deriving DecidableEq, Repr, Inhabited

namespace Member

def toJson (member : Member) : Json :=
  .object [("key", .string member.key), ("declaredType", .string member.declaredType),
    ("optional", .bool member.optional)]

def listToJson (members : List Member) : Json := .array (members.map toJson)

end Member
end SchemaLoom
