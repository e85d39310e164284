import SchemaLoom.Shell.Command

/-!
# Tokens and characters of scripts

What is being read decides what a character means: within double quotes a blank
is a character like any other, and a word that may be a keyword is one only
where a command begins. A reader of characters moves a cursor along the script.
Outside of single quotes a backslash at the end of a line joins the next line to
it.

The tokens and the three kinds of quoting are those of the POSIX shell command
language, which also says where an alias is replaced.
-/

namespace SchemaLoom.Shell

inductive Arrow where
  | file (opening : Opening)
  | copy
  | document (dropsTabs : Bool)
  deriving DecidableEq, Repr

inductive Token where
  | endOfText
  | newline
  | semicolon
  | doubleSemicolon
  | ampersand
  | doubleAmpersand
  | bar
  | doubleBar
  | openParen
  | closeParen
  | arrow (descriptor : Nat) (arrow : Arrow)
  | word (word : Word Command)

/-- The words that have a meaning of their own where a command begins. -/
def keywords : List String :=
  ["!", "case", "do", "done", "elif", "else", "esac", "fi", "for", "if", "in", "then", "until",
    "while", "\x7b", "\x7d"]

/-- The keywords that no command begins with, so that a list of commands ends
before them. -/
def endingKeywords : List String :=
  ["do", "done", "elif", "else", "esac", "fi", "then", "\x7d"]

/-- The text of a word of which nothing is quoted and nothing is to be expanded. -/
def plainText? : Word Command → Option (List Char)
  | [] => some []
  | .char c false :: rest => (plainText? rest).map (c :: ·)
  | _ :: _ => none

def Token.keyword? : Token → Option String
  | .word w =>
    (plainText? w).bind fun text => keywords.find? fun keyword => keyword.toList = text
  | _ => none

def Token.endsList (token : Token) : Bool :=
  match token with
  | .endOfText | .closeParen | .doubleSemicolon => true
  | token => token.keyword?.any endingKeywords.contains

/-- A token in messages. Keywords are told from words only where they can stand. -/
def Token.describe (token : Token) (asKeyword : Bool) : String :=
  match token with
  | .endOfText => "end of file"
  | .newline => "newline"
  | .semicolon => "\";\""
  | .doubleSemicolon => "\";;\""
  | .ampersand => "\"&\""
  | .doubleAmpersand => "\"&&\""
  | .bar => "\"|\""
  | .doubleBar => "\"||\""
  | .openParen => "\"(\""
  | .closeParen => "\")\""
  | .arrow _ _ => "redirection"
  | .word _ =>
    match token.keyword? with
    | some keyword => if asKeyword then "\"" ++ keyword ++ "\"" else "word"
    | none => "word"

/-- A here-document whose lines have not come yet: its place among the
documents, the line that ends it, whether its text is expanded, and whether the
tabs that its lines start with are left out. -/
structure Awaited where
  place : Nat
  delimiter : List Char
  expands : Bool
  dropsTabs : Bool

/-- What follows the line that ends a here-document, if that line comes. -/
def Awaited.behindDelimiter? (awaited : Awaited) (rest : List Char) : Option (List Char) :=
  let rest := if awaited.dropsTabs then rest.dropWhile (· = '\t') else rest
  if rest.takeWhile (· ≠ '\n') = awaited.delimiter then
    some (rest.drop (awaited.delimiter.length + 1))
  else none

/-- How far the reading of a script has come. Besides what is left it holds a
token that was given back, the here-documents so far and those that come after
this line, and the aliases that gave way to what is left, each with the number
of characters behind it, for no alias is replaced within itself. -/
structure Cursor where
  rest : List Char
  line : Nat := 1
  returned : Option Token := none
  isEnded : Bool := false
  awaited : List Awaited := []
  ending : Option Awaited := none
  behind : List Char := []
  documents : List (Word Command) := []
  aliases : List (List Char × List Char) := []
  replaced : List (List Char × Nat) := []
  goesOn : Bool := false

abbrev Reading (α : Type) := ExceptT String (StateM Cursor) α

/-- How many steps are enough for reading what is left. Of the aliases each may
stand within each other. -/
def Cursor.steps (cursor : Cursor) : Nat :=
  let width := cursor.aliases.foldl (fun n (_, value) => n * (value.length + 1)) 1
  32 * width * (cursor.rest.length + 4)

/-- What a word stands for, unless it stands within its own alias. -/
def Cursor.alias? (cursor : Cursor) (name : List Char) : Option (List Char) :=
  let isReplaced := cursor.replaced.any fun (other, behind) =>
    other = name && behind ≤ cursor.rest.length
  if isReplaced then none else cursor.aliases.lookup name

/-- Puts what an alias stands for in front of what is left. -/
def Cursor.replace (cursor : Cursor) (name value : List Char) : Cursor :=
  let behind := cursor.rest.length
  { cursor with
    rest := value ++ cursor.rest
    replaced := (name, behind) :: cursor.replaced.filter (·.2 ≤ behind) }

/-- The cursor at the start of a text that stood within what is being read, at a
line. The aliases that it stood within are those of all of it. -/
def Cursor.inside (cursor : Cursor) (text : List Char) (line : Nat) : Cursor :=
  let replaced := cursor.replaced.filter (·.2 ≤ cursor.rest.length)
  { cursor with
    rest := text, line, ending := none
    replaced := replaced.map fun (name, _) => (name, 0) }

/-- Whether an alias that ends with a blank ends here. -/
def Cursor.isBehindBlank (cursor : Cursor) : Bool :=
  let behind := cursor.rest.length
  cursor.replaced.any fun (name, there) =>
    there = behind &&
      ((cursor.aliases.lookup name).bind (·.getLast?)).any fun c => c = ' ' || c = '\t'

/-- Where the characters of a word stand: in a word of a command, in the word
that ends a here-document, in double quotes, in the word of a parameter between
braces, in a here-document, or in an expression with so many parentheses open. -/
inductive Within where
  | word
  | delimiter
  | doubleQuotes
  | braces (quoted quotedBrace : Bool)
  | document
  | arithmetic (parens : Nat)
  deriving DecidableEq, Repr

/-- Whether quotes are around the characters, or something that does the same. -/
def Within.isQuoted : Within → Bool
  | .word | .delimiter | .braces false _ => false
  | _ => true

/-- Whether a backslash takes the meaning of a character away. Outside of quotes
it always does. -/
def Within.escapes (within : Within) (c : Char) : Bool :=
  !within.isQuoted || c = '$' || c = '\x60' || c = '\\' ||
    (c = '\x22' && within ≠ .document) ||
    (c = '\x7d' && within matches .braces _ _)

/-- What is wrong with a script that ends within something. -/
def Within.atEnd : Within → Option String
  | .word | .delimiter | .document => none
  | .doubleQuotes | .braces true _ => some "Unterminated quoted string"
  | .braces false _ => some "Missing '\x7d'"
  | .arithmetic _ => some "Missing '))'"

/-- Whether a character that is not quoted ends a word. -/
def endsWord (c : Char) : Bool :=
  [' ', '\t', '\n', ';', '&', '|', '<', '>', '(', ')'].contains c

def startsName (c : Char) : Bool := c.isAlpha || c = '_'

def isNameChar (c : Char) : Bool := c.isAlphanum || c = '_'

def isName : List Char → Bool
  | [] => false
  | c :: rest => startsName c && rest.all isNameChar

def isSpecial (c : Char) : Bool :=
  c.isDigit || ['@', '*', '#', '?', '-', '$', '!'].contains c

/-- The commands that the shell itself is at fault with, so that their faults
end it. No function can have the name of one. -/
def specialBuiltins : List String :=
  [".", ":", "break", "continue", "eval", "exec", "exit", "export", "local", "readonly", "return",
    "set", "shift", "times", "trap", "unset"]

namespace Reading

def takeRaw : Reading (Option Char) := do
  let cursor ← get
  match cursor.rest with
  | [] => return none
  | c :: rest =>
    set { cursor with rest, line := if c = '\n' then cursor.line + 1 else cursor.line }
    return some c

/-- What is left behind line ends that follow backslashes, and the number of the
line there. -/
def joined : List Char → Nat → List Char × Nat
  | '\\' :: '\n' :: rest, line => joined rest (line + 1)
  | s, line => (s, line)

/-- The next character of a line that may go on after a backslash at its end. It
is not read yet. -/
def peek : Reading (Option Char) := do
  let cursor ← get
  let (rest, line) := joined cursor.rest cursor.line
  set { cursor with rest, line }
  return rest.head?

def take : Reading (Option Char) := do
  let _ ← peek
  takeRaw

/-- Reads the next character if it is the given one. -/
def takeIf (c : Char) : Reading Bool := do
  if (← peek) = some c then
    let _ ← takeRaw
    return true
  else return false

def giveBack (token : Token) : Reading Unit :=
  modify fun cursor => { cursor with returned := some token }

def takeBlank : Reading Unit := do
  let _ ← takeRaw
  modify fun cursor => { cursor with goesOn := cursor.goesOn || cursor.isBehindBlank }

/-- Whether the token that was read may be an alias even where a word is none. -/
def followsBlank : Reading Bool := do
  let cursor ← get
  set { cursor with goesOn := false }
  return cursor.goesOn

/-- Makes a token that is an alias give way to what it stands for, if it may:
whether it did. -/
def replaceAliasIf (mayBeAlias : Bool) (token : Token) : Reading Bool := do
  if !mayBeAlias then return false
  let .word word := token | return false
  let some name := plainText? word | return false
  let cursor ← get
  let some value := cursor.alias? name | return false
  set (cursor.replace name value)
  return true

def unexpected {α : Type} (token : Token) (asKeyword : Bool) (expected : String) :
    Reading α :=
  throw ("Syntax error: " ++ token.describe asKeyword ++ " unexpected" ++
    if expected = "" then "" else " (expecting " ++ expected ++ ")")

/-- What is wrong if a reader has no steps left. -/
def stuck {α : Type} : Reading α := throw "Syntax error: too long"

/-- Reads characters while they satisfy a condition, so many at most. -/
def takeWhile (holds : Char → Bool) : Nat → List Char → Reading (List Char)
  | 0, _ => stuck
  | n + 1, before => do
    match ← peek with
    | some c =>
      if holds c then
        let _ ← takeRaw
        takeWhile holds n (c :: before)
      else return before.reverse
    | none => return before.reverse

def singleQuoted : Nat → List (Part Command) → Reading (Word Command)
  | 0, _ => stuck
  | n + 1, before => do
    match ← takeRaw with
    | none => throw "Syntax error: Unterminated quoted string"
    | some c =>
      if c = '\x27' then return before.reverse else singleQuoted n (.char c true :: before)

/-- Reads the script between backquotes. A backslash there takes the meaning of
a backquote, a dollar or a backslash away. -/
def backquoted (quoted : Bool) : Nat → List Char → Reading (List Char)
  | 0, _ => stuck
  | n + 1, before => do
    match ← take with
    | none => throw "Syntax error: EOF in backquote substitution"
    | some '\x60' => return before.reverse
    | some '\\' =>
      match ← takeRaw with
      | none => throw "Syntax error: EOF in backquote substitution"
      | some c =>
        if c = '\x60' || c = '$' || c = '\\' || (c = '\x22' && quoted) then
          backquoted quoted n (c :: before)
        else backquoted quoted n (c :: '\\' :: before)
    | some c => backquoted quoted n (c :: before)

/-- Begins a line of the here-document that is read, if one is. Behind its
delimiter it has ended. -/
def beginLine : Reading Unit := do
  if let some awaited := (← get).ending then
    let _ ← peek
    let cursor ← get
    match awaited.behindDelimiter? cursor.rest with
    | some behind =>
      if cursor.rest ≠ [] || awaited.delimiter = [] then
        set { cursor with rest := [], line := cursor.line + 1, ending := none, behind }
    | none =>
      if awaited.dropsTabs then set { cursor with rest := cursor.rest.dropWhile (· = '\t') }

/-- Reads the lines of a here-document that stand for themselves, up to its
delimiter or to the end, so many at most. -/
def documentLines (awaited : Awaited) : Nat → List Char → Reading (List Char)
  | 0, before => return before
  | n + 1, before => do
    let cursor ← get
    match cursor.rest, awaited.behindDelimiter? cursor.rest with
    | [], _ => return before
    | _, some behind =>
      set { cursor with rest := behind, line := cursor.line + 1 }
      return before
    | rest, none =>
      let whole := rest.takeWhile (· ≠ '\n')
      let line := if awaited.dropsTabs then whole.dropWhile (· = '\t') else whole
      let after := rest.dropWhile (· ≠ '\n')
      set { cursor with rest := after.drop 1, line := cursor.line + after.length.min 1 }
      documentLines awaited n (before ++ line ++ after.take 1)

/-- The name that an assignment gives a value, and the rest of the word. -/
def assignment? (word : Word Command) : Option (List Char × Word Command) :=
  let rec go (name : List Char) : Word Command → Option (List Char × Word Command)
    | .char '=' false :: value => if isName name.reverse then some (name.reverse, value) else none
    | .char c false :: rest => if isNameChar c then go (c :: name) rest else none
    | _ => none
  go [] word

/-- The delimiter of a here-document without its quotes, and whether it has any. -/
def delimiterOf (word : Word Command) : List Char × Bool :=
  (word.filterMap fun | .char c _ => some c | _ => none,
    word.any fun | .char _ quoted => quoted | _ => true)

/-- What is made of a parameter, by the character that follows its name, and
whether another character follows that one. -/
def useOf (c : Char) (emptyIsNone : Bool) : Option Use :=
  match c with
  | '-' => some (.orElse emptyIsNone)
  | '=' => some (.orAssign emptyIsNone)
  | '+' => some (.instead emptyIsNone)
  | '?' => some (.orFail emptyIsNone)
  | _ => none

end Reading
end SchemaLoom.Shell
