import SchemaLoom.Json.Basic

/-!
# JSON text

The compact form has no blanks. The indented form puts every item and every
entry on a line of its own, two spaces deeper than the bracket that holds it;
empty arrays and objects stay together. Strings escape the quote, the backslash
and the controls below the space, and nothing else.

Both forms are told on lists of characters, from the inside out; the one text
that they make is put together at the end.
-/

namespace SchemaLoom.Json

/-- Numbers are positional from five places right of the point up to sixteen
left of it, and keep a point, so that a binary64 is never written like an
integer. -/
def numberStyle : DecimalStyle := ⟨some (-5), some 16, true⟩

def numberChars : Number → List Char
  | .integer n => (if n < 0 then ['-'] else []) ++ Nat.toDigits 10 n.natAbs
  | .binary x => x.toChars numberStyle

def hexDigit (n : Nat) : Char := Nat.digitChar n

/-- One character of a string between its quotes. Quotes, backslashes and
controls are escaped, and everything else is written as it is. -/
def stringChar (c : Char) : List Char :=
  if c = '\x22' then ['\\', '\x22']
  else if c = '\\' then ['\\', '\\']
  else if c = '\n' then ['\\', 'n']
  else if c = '\r' then ['\\', 'r']
  else if c = '\t' then ['\\', 't']
  else if c = '\x08' then ['\\', 'b']
  else if c = '\x0c' then ['\\', 'f']
  else if c.toNat < 0x20 then
    ['\\', 'u', '0', '0', hexDigit (c.toNat / 16), hexDigit (c.toNat % 16)]
  else [c]

/-- A string between its quotes. -/
def stringChars (s : String) : List Char :=
  '\x22' :: s.toList.flatMap stringChar ++ ['\x22']

def quote (s : String) : String := String.ofList (stringChars s)

mutual

/-- The compact form of a value, with no blank in it outside strings. -/
def compactChars : Json → List Char
  | .null => "null".toList
  | .bool true => "true".toList
  | .bool false => "false".toList
  | .number n => numberChars n
  | .string s => stringChars s
  | .array [] => "[]".toList
  | .array (item :: items) => '[' :: compactChars item ++ compactItems items
  | .object [] => ['\x7b', '\x7d']
  | .object ((key, value) :: fields) =>
    '\x7b' :: stringChars key ++ ':' :: compactChars value ++ compactFields fields

def compactItems : List Json → List Char
  | [] => [']']
  | item :: items => ',' :: compactChars item ++ compactItems items

def compactFields : List (String × Json) → List Char
  | [] => ['\x7d']
  | (key, value) :: fields =>
    ',' :: stringChars key ++ ':' :: compactChars value ++ compactFields fields

end

def newline (level : Nat) : List Char := '\n' :: List.replicate (2 * level) ' '

mutual

/-- The indented form of a value that stands at a level: two blanks a level,
every item and entry on a line of its own, and empty arrays and objects closed
at once. -/
def prettyChars (level : Nat) : Json → List Char
  | .null => "null".toList
  | .bool true => "true".toList
  | .bool false => "false".toList
  | .number n => numberChars n
  | .string s => stringChars s
  | .array [] => "[]".toList
  | .array (item :: items) =>
    '[' :: newline (level + 1) ++ prettyChars (level + 1) item ++ prettyItems level items
  | .object [] => ['\x7b', '\x7d']
  | .object ((key, value) :: fields) =>
    '\x7b' :: newline (level + 1) ++ stringChars key ++ ':' :: ' ' ::
      prettyChars (level + 1) value ++ prettyFields level fields

def prettyItems (level : Nat) : List Json → List Char
  | [] => newline level ++ [']']
  | item :: items =>
    ',' :: newline (level + 1) ++ prettyChars (level + 1) item ++ prettyItems level items

def prettyFields (level : Nat) : List (String × Json) → List Char
  | [] => newline level ++ ['\x7d']
  | (key, value) :: fields =>
    ',' :: newline (level + 1) ++ stringChars key ++ ':' :: ' ' ::
      prettyChars (level + 1) value ++ prettyFields level fields

end

def compact (value : Json) : String := String.ofList (compactChars value)

/-- The indented form of a value. -/
def pretty (value : Json) : String := String.ofList (prettyChars 0 value)

end SchemaLoom.Json
