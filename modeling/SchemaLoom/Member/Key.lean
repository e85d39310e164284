import SchemaLoom.Json.Writer
import SchemaLoom.Text.Word

/-!
# Keys in declarations

A key stands bare if it is an identifier: an ASCII letter, an underscore or a
dollar sign, and then word characters and dollar signs. Any other key is written
as a JSON string.
-/

namespace SchemaLoom.Member

def startsIdentifier (c : Char) : Bool := c.isAlpha || c = '_' || c = '$'

/-- Whether an identifier may go on with the character. Word characters of every
script may, though only ASCII may begin one. -/
def continuesIdentifier (c : Char) : Bool := Text.isWord c || c = '$'

/-- Whether a text is an identifier, and so can stand as a key without quotes. -/
def isIdentifier : List Char → Bool
  | [] => false
  | c :: rest => startsIdentifier c && rest.all continuesIdentifier

/-- A key as it stands in a declaration: bare if it is an identifier, and as a
JSON string otherwise. -/
def keyChars (key : String) : List Char :=
  if isIdentifier key.toList then key.toList else Json.stringChars key

end SchemaLoom.Member
