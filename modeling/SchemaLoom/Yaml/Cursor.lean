/-!
# Places in a YAML document

A document is read from a cursor, which knows its line and column. Every line
end is a line feed.

YAML 1.2 tells structure by columns, so every reader of this format moves such a
cursor and nothing else.
-/

namespace SchemaLoom.Yaml

def isBlank (c : Char) : Bool := c = ' ' || c = '\t'

def isLineEnd (s : List Char) : Bool := s.head?.all (· = '\n')

/-- Whether the line or the document ends or a blank comes. -/
def isGap (s : List Char) : Bool := s.head?.all fun c => isBlank c || c = '\n'

/-- The characters that lists and maps in brackets are made of. -/
def isFlowMark (c : Char) : Bool := [',', '[', ']', '\x7b', '\x7d'].contains c

/-- Where the reading of a document stands: what is left, the line, the column
and the number of characters before it, and whether only blanks are before it in
its line. -/
structure Cursor where
  rest : List Char
  line : Nat := 0
  column : Nat := 0
  index : Nat := 0
  isLeading : Bool := true
  deriving Repr

namespace Cursor

def next (cursor : Cursor) : Cursor :=
  match cursor.rest with
  | [] => cursor
  | c :: rest =>
    if c = '\n' then ⟨rest, cursor.line + 1, 0, cursor.index + 1, true⟩
    else ⟨rest, cursor.line, cursor.column + 1, cursor.index + 1, cursor.isLeading && isBlank c⟩

def skip (count : Nat) (cursor : Cursor) : Cursor :=
  count.fold (fun _ _ cursor => cursor.next) cursor

def skipWhile (holds : Char → Bool) (cursor : Cursor) : Cursor :=
  cursor.skip (cursor.rest.takeWhile holds).length

/-- Whether a line begins that starts or ends a document. -/
def isMarker (cursor : Cursor) : Bool :=
  cursor.column = 0 &&
    (["---", "..."].any fun mark => mark.toList.isPrefixOf cursor.rest) &&
    isGap (cursor.rest.drop 3)

/-- What stood between two pieces of a line: whether there was a tab, and
whether there was a space. -/
structure Gap where
  hasTab : Bool
  hasSpace : Bool
  deriving Repr

/-- Goes on behind blanks, and behind a comment, which must not stand right
behind something else. -/
def skipBlanks? (withTabs : Bool) (cursor : Cursor) : Option (Gap × Cursor) :=
  let isSkipped (c : Char) : Bool := c = ' ' || withTabs && c = '\t'
  let blanks := cursor.rest.takeWhile isSkipped
  let after := cursor.skip blanks.length
  let gap : Gap := ⟨blanks.contains '\t', blanks.contains ' '⟩
  if after.rest.head? = some '#' then
    if blanks = [] then none else some (gap, after.skipWhile (· ≠ '\n'))
  else some (gap, after)

end Cursor
end SchemaLoom.Yaml
