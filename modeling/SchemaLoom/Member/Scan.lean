import SchemaLoom.Json.Lexeme
import SchemaLoom.Member.Basic
import SchemaLoom.Member.Key
import SchemaLoom.Text.Blank
import SchemaLoom.Text.Lines

/-!
# Reading the members of an interface from a declaration file

The text is read line by line. The block of a type opens at the first line that
declares the name as an interface or as a type with a brace. Inside it only
lines at the top level of the block, by the count of braces, can be members. A
member whose type opens more braces than it closes goes on over the following
lines until they are closed.

Between two lines all that is known is how many braces are open and which member
goes on, if one does. A block that is closed in the line that opens it has its
members between semicolons and is cut there.
-/

namespace SchemaLoom.Member

/-- What follows a word and at least one blank, and the text itself if it starts
otherwise. -/
def skipWord (word : String) (s : List Char) : List Char :=
  match Text.afterPattern word.toList s with
  | some (c :: rest) => if Text.isBlank c then Text.trimStart rest else s
  | _ => s

/-- Whether of two neighbours, of which either may be missing, just one is a
word character. A dollar sign is none, so a name that ends in one has no edge
behind it in front of a blank. -/
def isWordEdge (before after : Option Char) : Bool :=
  before.any Text.isWord != after.any Text.isWord

/-- Whether a text starts with the name of an interface and a brace stands
somewhere behind it. What is in between, such as the interfaces that it extends,
is not looked at. -/
def startsInterface (name s : List Char) : Bool :=
  match Text.afterPattern name s with
  | some rest => isWordEdge name.getLast? rest.head? && rest.contains '\x7b'
  | none => false

def startsType (name s : List Char) : Bool :=
  match Text.afterPattern name s with
  | some rest =>
    match Text.trimStart rest with
    | '=' :: rest => (Text.trimStart rest).head? = some '\x7b'
    | _ => false
  | none => false

/-- Whether a line opens the block of the name. The name may begin with blanks
itself, so each way to part it from the word in front is tried. -/
def opensBlock (name line : List Char) : Bool :=
  let s := skipWord "declare" (skipWord "export" (Text.trimStart line))
  let after (word : String) : List (List Char) :=
    ((Text.afterPattern word.toList s).map Text.afterBlanks).getD []
  (after "interface").any (startsInterface name) || (after "type").any (startsType name)

/-- The braces opened less the braces closed, wherever they stand, inside
literals and comments too. The count is exact; a program that keeps it in 32
bits agrees as long as a text has fewer than 2^31 braces. -/
def braces (s : List Char) : Int := (s.count '\x7b' : Int) - s.count '\x7d'

/-- The characters up to the quote that ends a quoted key, and what follows it.
A character behind a backslash ends nothing. -/
def quotedBody (quote : Char) : List Char → Option (List Char × List Char)
  | [] => none
  | ['\\'] => none
  | '\\' :: c :: rest => (quotedBody quote rest).map fun p => ('\\' :: c :: p.1, p.2)
  | c :: rest =>
    if c = quote then some ([], rest) else (quotedBody quote rest).map fun p => (c :: p.1, p.2)

def stripQuotes (quote : Char) (s : List Char) : List Char :=
  ((s.dropWhile (· = quote)).reverse.dropWhile (· = quote)).reverse

/-- The key between quotes. Between double quotes it is a JSON string if it can
be read as one; otherwise the quotes at both ends are taken off. -/
def unquote (quote : Char) (body : List Char) : List Char :=
  let bare := stripQuotes quote (quote :: body ++ [quote])
  if quote = '\x22' then
    match Json.stringBody (body ++ ['\x22']) with
    | .ok (text, []) => text
    | _ => bare
  else bare

/-- The key at the front of a text, bare or between quotes, and what follows it. -/
def readKey : List Char → Option (List Char × List Char)
  | [] => none
  | c :: rest =>
    if startsIdentifier c then
      some (c :: rest.takeWhile continuesIdentifier, rest.dropWhile continuesIdentifier)
    else if c = '\x22' || c = '\x27' then
      (quotedBody c rest).map fun p => (unquote c p.1, p.2)
    else none

/-- What a line says of a member: its key without quotes, whether it may be left
out, and the type as far as it has been read, which may go on over several
lines. -/
structure Entry where
  key : List Char
  optional : Bool
  type : List Char
  deriving DecidableEq, Repr

def bareType (type : List Char) : List Char :=
  Text.trimEnd (((Text.trim type).reverse.dropWhile (· = ';')).reverse)

def Entry.member (entry : Entry) : Member :=
  ⟨String.ofList entry.key, String.ofList (bareType entry.type), entry.optional⟩

/-- Reads what follows a key: perhaps a question mark, a colon, and at least one
character of type or blank. -/
def readAfterKey (key : List Char) (s : List Char) : Option Entry :=
  let (optional, s) :=
    match s with
    | '?' :: rest => (true, rest)
    | s => (false, s)
  match Text.trimStart s with
  | ':' :: c :: rest => some ⟨key, optional, Text.trim (c :: rest)⟩
  | _ => none

def readKeyed (s : List Char) : Option Entry :=
  (readKey s).bind fun p => readAfterKey p.1 p.2

/-- Reads the entry of a line. The word `readonly` in front of a key is passed
over; where no key follows, it is the key itself. -/
def readEntry (line : List Char) : Option Entry :=
  let s := Text.trimStart line
  (readKeyed (skipWord "readonly" s)).or (readKeyed s)

/-- Whether a line without blanks in front belongs to a comment. Only its first
characters are looked at, so a line inside a comment that starts otherwise is
taken for code. -/
def isComment (line : List Char) : Bool :=
  ['/', '*'].isPrefixOf line || ['*'].isPrefixOf line || ['/', '/'].isPrefixOf line

/-- The members on the lines of a block, after so many more braces were opened
than closed. An entry still open takes in every line until one brace is open,
comments included. The depth is exact, and fits into 32 bits as long as the text
has fewer than 2^31 braces. -/
def scanLines (depth : Int) (pending : Option Entry) : List (List Char) → List Member
  | [] => []
  | line :: rest =>
    let line' := Text.trim line
    if depth ≤ 0 then []
    else
      match pending with
      | some entry =>
        let entry := { entry with type := entry.type ++ ' ' :: line' }
        if depth + braces line' = 1 then entry.member :: scanLines 1 none rest
        else scanLines (depth + braces line') (some entry) rest
      | none =>
        if isComment line' then scanLines depth none rest
        else
          match if depth = 1 then readEntry line else none with
          | some entry =>
            if 0 < braces entry.type then scanLines (1 + braces entry.type) (some entry) rest
            else entry.member :: scanLines depth none rest
          | none => scanLines (depth + braces line') none rest

/-- The members of a block that is closed in the line that opens it: those
between its first and its last brace, with semicolons between them. -/
def inlineMembers (line : List Char) : List Member :=
  let opened := (line.dropWhile (· ≠ '\x7b')).drop 1
  let body := (opened.reverse.dropWhile (· ≠ '\x7d')).drop 1
  (Text.splitBy (· = ';') body.reverse).filterMap fun piece => (readEntry piece).map Entry.member

/-- The members of the block that the first of the lines opens. The line itself
says whether it closes the block again. -/
def ofBlock : List (List Char) → List Member
  | [] => []
  | opening :: rest =>
    if braces opening ≤ 0 then inlineMembers opening
    else scanLines (braces opening) none rest

/-- The members of the first block of the name in a declaration file. There are
none if no line opens such a block, and none if the block is empty. -/
def ofDeclarations (text name : String) : List Member :=
  ofBlock ((Text.lines text.toList).dropWhile fun line => !opensBlock name.toList line)

end SchemaLoom.Member
