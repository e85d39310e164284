import SchemaLoom.Json.Basic

/-!
# The kinds of schema nodes

A node of a schema declares under `type` which kind of value it describes. A
shape fault says what is wrong with a node and where the node stands; the place
is a list of keys, written as a JSON Pointer in messages.

A kind is read off a node in one place, so every part of the program finds the
same flaw in the same node. Kinds have the names that stand under `type`, and no
two have one name.
-/

namespace SchemaLoom.Schema

/-- What a node describes, as it declares under `type`. There are no other
kinds, and a node that may be null still declares just one of them. -/
inductive Kind where
  | string
  | boolean
  | integer
  | number
  | object
  | array
  deriving DecidableEq, Repr

namespace Kind

def name : Kind → String
  | .string => "string"
  | .boolean => "boolean"
  | .integer => "integer"
  | .number => "number"
  | .object => "object"
  | .array => "array"

def all : List Kind := [.string, .boolean, .integer, .number, .object, .array]

/-- The kind that a word declares. The words are told apart by case, so no kind
has a second name. -/
def ofName? (word : String) : Option Kind := all.find? (·.name = word)

theorem ofName?_name (kind : Kind) : ofName? kind.name = some kind := by
  cases kind <;> rfl

theorem name_of_ofName? {word : String} {kind : Kind} (h : ofName? word = some kind) :
    kind.name = word := by
  simpa using List.find?_some h

end Kind

/-- What is wrong with a node. The root can be no object or of another type than
an object; any other node can lack a type, declare it with something that is no
string, or name a type that there is not. -/
inductive Flaw where
  | rootNotObject
  | rootOfOtherType (found : String)
  | rootUntyped
  | untyped
  | typeNotString
  | unknownType (found : String)
  deriving DecidableEq, Repr

def Flaw.reason : Flaw → String
  | .rootNotObject => "schema root must be a JSON object"
  | .rootOfOtherType found => "root type must be \"object\", found \"" ++ found ++ "\""
  | .rootUntyped => "root schema has no \x60type\x60"
  | .untyped => "property has no \x60type\x60"
  | .typeNotString => "\x60type\x60 must be a string"
  | .unknownType found => "unrecognized type \"" ++ found ++ "\""

def Flaw.messageAt (place : String) (flaw : Flaw) : String :=
  "invalid schema at \x60" ++ place ++ "\x60: " ++ flaw.reason

/-- The keys that lead from a document to a value in it, the outermost first. -/
abbrev Pointer := List String

def Pointer.escapeChar (c : Char) : List Char :=
  if c = '~' then ['~', '0'] else if c = '/' then ['~', '1'] else [c]

def Pointer.escape (key : String) : String :=
  String.ofList (key.toList.flatMap escapeChar)

/-- The text of a pointer, a JSON Pointer: every key stands behind a slash, and
a tilde or a slash inside a key is escaped. -/
def Pointer.text (pointer : Pointer) : String :=
  String.join (pointer.map fun key => "/" ++ escape key)

/-- A flaw and the place of the node that has it. Faults found inside a part of
a document are placed in the part, and then moved `under` the way that leads
there. -/
structure ShapeFault where
  pointer : Pointer
  flaw : Flaw
  deriving DecidableEq, Repr

namespace ShapeFault

def under (place : Pointer) (fault : ShapeFault) : ShapeFault :=
  { fault with pointer := place ++ fault.pointer }

def message (fault : ShapeFault) : String := fault.flaw.messageAt fault.pointer.text

end ShapeFault

/-- What a node declares under `type`. A node that is no object declares
nothing, just as one without that key. -/
def kindOf (node : Json) : Except Flaw Kind :=
  match node.get? "type" with
  | none => .error .untyped
  | some (.string word) =>
    match Kind.ofName? word with
    | some kind => .ok kind
    | none => .error (.unknownType word)
  | some _ => .error .typeNotString

def topKind (node : Json) : Except ShapeFault Kind := (kindOf node).mapError (⟨[], ·⟩)

/-- A node is of a kind exactly if its `type` is the name of the kind, so the
declaration can be read off the node without going through the flaws. -/
theorem kindOf_eq_ok_iff {node : Json} {kind : Kind} :
    kindOf node = .ok kind ↔ node.get? "type" = some (.string kind.name) := by
  unfold kindOf
  split
  · next h => simp [h]
  · next word h =>
    rw [h]
    split
    · next k hk =>
      have := Kind.name_of_ofName? hk
      subst this
      constructor
      · rintro ⟨rfl⟩
        rfl
      · intro e
        simp only [Option.some.injEq, Json.string.injEq] at e
        have : some k = some kind := by rw [← Kind.ofName?_name, ← Kind.ofName?_name, e]
        rw [Option.some.inj this]
    · next hk =>
      constructor
      · simp
      · intro e
        simp only [Option.some.injEq, Json.string.injEq] at e
        rw [e, Kind.ofName?_name] at hk
        simp at hk
  · next v hv h =>
    rw [h]
    constructor
    · simp
    · intro e
      exact absurd (Option.some.inj e) (hv _)

end SchemaLoom.Schema
