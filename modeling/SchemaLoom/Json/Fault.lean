import SchemaLoom.Json.Basic
import SchemaLoom.Text.Quoted
import SchemaLoom.Text.Utf8

/-!
# Faults of a JSON text

A fault says what is wrong, how many bytes of the text were still unread there,
and which path of keys and indices leads to the value being read. Line and
column follow from the count of bytes and the text: the column counts bytes
since the last line end, which itself has column zero.

Paths are kept as lists of keys and indices and written with points and brackets
only in messages.
-/

namespace SchemaLoom.Json

/-- One step of a path into a document: to the value of a key, to an item of an
array, or into an entry whose key is not known yet. -/
inductive Step where
  | key (name : String)
  | index (i : Nat)
  | unknownKey
  deriving DecidableEq, Repr

/-- What a typed reader finds in place of what it expects. Messages name it
together with its value, if it is a scalar. -/
inductive Found where
  | null
  | bool (value : Bool)
  | number (value : Number)
  | string (value : String)
  | array
  | object
  deriving Repr

/-- What is wrong with a JSON text. Most reasons are of syntax; the last are
those of a typed reader. -/
inductive Reason where
  | endInValue
  | endInList
  | endInObject
  | endInString
  | expectedValue
  | expectedIdent
  | expectedColon
  | expectedListComma
  | expectedObjectComma
  | trailingComma
  | trailingCharacters
  | keyNotString
  | invalidNumber
  | numberOutOfRange
  | invalidEscape
  | endOfHexEscape
  | loneSurrogate
  | controlInString
  | tooDeep
  | invalidType (found : Found) (expected : String)
  | missingField (name : String)
  | duplicateField (name : String)
  | invalidLength (length : Nat) (expected : String)
  deriving Repr

/-- A fault of a JSON text: what is wrong, how many bytes of the text were not
read yet, and the way to the value being read. Counting from the end lets
readers go without knowing where they are. -/
structure Fault where
  reason : Reason
  left : Nat
  path : List Step
  deriving Repr

namespace Fault

def here (reason : Reason) (rest : List Char) : Fault :=
  ⟨reason, Text.Utf8.byteCount rest, []⟩

/-- A fault of the byte that comes next, which counts as read; at the end there
is none. -/
def ahead (reason : Reason) (rest : List Char) : Fault :=
  ⟨reason, Text.Utf8.byteCount rest - 1, []⟩

/-- The same fault seen from one step further out. -/
def under (step : Step) (fault : Fault) : Fault := { fault with path := step :: fault.path }

end Fault

def Found.describe : Found → String
  | .null => "null"
  | .bool b => s!"boolean \x60{b}\x60"
  | .number (.integer n) => s!"integer \x60{n}\x60"
  | .number (.binary x) =>
    "floating point \x60" ++ String.ofList (x.toChars ⟨some (-5), some 16, true⟩) ++ "\x60"
  | .string s => "string " ++ Text.quoted s
  | .array => "sequence"
  | .object => "map"

def Reason.message : Reason → String
  | .endInValue => "EOF while parsing a value"
  | .endInList => "EOF while parsing a list"
  | .endInObject => "EOF while parsing an object"
  | .endInString => "EOF while parsing a string"
  | .expectedValue => "expected value"
  | .expectedIdent => "expected ident"
  | .expectedColon => "expected \x60:\x60"
  | .expectedListComma => "expected \x60,\x60 or \x60]\x60"
  | .expectedObjectComma => "expected \x60,\x60 or \x60\x7d\x60"
  | .trailingComma => "trailing comma"
  | .trailingCharacters => "trailing characters"
  | .keyNotString => "key must be a string"
  | .invalidNumber => "invalid number"
  | .numberOutOfRange => "number out of range"
  | .invalidEscape => "invalid escape"
  | .endOfHexEscape => "unexpected end of hex escape"
  | .loneSurrogate => "lone leading surrogate in hex escape"
  | .controlInString => "control character (\\u0000-\\u001F) found while parsing a string"
  | .tooDeep => "recursion limit exceeded"
  | .invalidType found expected => s!"invalid type: {found.describe}, expected {expected}"
  | .missingField name => "missing field \x60" ++ name ++ "\x60"
  | .duplicateField name => "duplicate field \x60" ++ name ++ "\x60"
  | .invalidLength length expected => s!"invalid length {length}, expected {expected}"

def Step.text : Step → String
  | .key name => name
  | .index i => s!"[{i}]"
  | .unknownKey => "?"

/-- A path after its first step: a point stands before every key, none before an
index. -/
def Step.tailText : List Step → String
  | [] => ""
  | .index i :: rest => (Step.index i).text ++ tailText rest
  | step :: rest => "." ++ step.text ++ tailText rest

def Step.pathText : List Step → String
  | [] => "."
  | step :: rest => step.text ++ tailText rest

/-- Line and column after so many bytes of a text; lines count from one. A
column counts bytes, not characters. -/
def position (line column : Nat) : Nat → List Char → Nat × Nat
  | _, [] => (line, column)
  | 0, _ :: _ => (line, column)
  | n + 1, c :: rest =>
    if n + 1 < c.utf8Size then (line, column + n + 1)
    else if c = '\n' then position (line + 1) 0 (n + 1 - c.utf8Size) rest
    else position line (column + c.utf8Size) (n + 1 - c.utf8Size) rest

def Fault.message (text : List Char) (fault : Fault) : String :=
  let (line, column) := position 1 0 (Text.Utf8.byteCount text - fault.left) text
  "at JSON path " ++ Step.pathText fault.path ++ " → " ++ fault.reason.message ++
    s!" at line {line} column {column}"

end SchemaLoom.Json
