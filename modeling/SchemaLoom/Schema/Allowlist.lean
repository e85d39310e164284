import SchemaLoom.Schema.Kind

/-!
# The keys that a stored schema may carry

A stored schema keeps a fixed list of keys at its root. Each root property keeps
the keys that every property may have and those of its kind. What stands below a
kept key is not looked at.

The lists are tables by kind, and whether a key is kept is one function of the
kind and the node. The first root property that declares no kind is the fault,
with its place.
-/

namespace SchemaLoom.Schema

def rootKeys : List String :=
  ["title", "description", "type", "schemaVersion", "properties", "required"]

/-- The keys that every property may keep, whatever its kind is and whatever
stands under them. -/
def commonKeys : List String :=
  ["title", "type", "description", "default", "prefill", "example", "editor", "nullable",
    "sectionCaption", "sectionDescription"]

/-- The keys that a property keeps for its kind, beside the common ones.
Integers and numbers share theirs, and `items` is in none of the lists: arrays
keep it on a condition of its own. -/
def Kind.keys : Kind → List String
  | .string => ["pattern", "minLength", "maxLength", "enum", "enumTitles", "isSecret"]
  | .boolean => ["groupCaption", "groupDescription"]
  | .integer | .number => ["minimum", "maximum", "unit"]
  | .object =>
    ["patternKey", "patternValue", "minProperties", "maxProperties", "properties", "required",
      "additionalProperties", "isSecret"]
  | .array =>
    ["placeholderKey", "placeholderValue", "patternKey", "patternValue", "minItems", "maxItems",
      "uniqueItems"]

def isSelect (node : Fields Json) : Bool :=
  (node.get? "editor").bind Json.string? = some "select"

/-- Whether a property of the kind keeps the key. Besides the two lists an array
keeps its `items`, but only where values are chosen from a list. -/
def keepsKey (kind : Kind) (node : Fields Json) (key : String) : Bool :=
  commonKeys.contains key || kind.keys.contains key ||
    (kind = .array && key = "items" && isSelect node)

def keepProperty (kind : Kind) : Json → Json
  | .object node => .object (node.filter fun entry => keepsKey kind node entry.1)
  | other => other

/-- The properties with the keys that they keep. One that declares no kind stops
the whole, since there is no list to go by for it. -/
def keepProperties : Fields Json → Except ShapeFault (Fields Json)
  | [] => .ok []
  | (key, node) :: rest =>
    match topKind node with
    | .error fault => .error (fault.under ["properties", key])
    | .ok kind => (keepProperties rest).map ((key, keepProperty kind node) :: ·)

/-- The entries of the root that are kept, in their order. Only `properties` are
gone into, and only if they are an object; any other value is copied as it is. -/
def keepRoot : Fields Json → Except ShapeFault (Fields Json)
  | [] => .ok []
  | (key, value) :: rest =>
    if rootKeys.contains key then
      match key, value with
      | "properties", .object properties =>
        match keepProperties properties with
        | .error fault => .error fault
        | .ok kept => (keepRoot rest).map ((key, .object kept) :: ·)
      | _, _ => (keepRoot rest).map ((key, value) :: ·)
    else keepRoot rest

/-- A schema with the keys that a stored one may carry. The root must be an
object, but nothing else about its shape is checked here. -/
def keepAllowed : Json → Except ShapeFault Json
  | .object fields => (keepRoot fields).map .object
  | _ => .error ⟨[], .rootNotObject⟩

end SchemaLoom.Schema
