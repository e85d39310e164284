/-!
# The characters of TOML

A reader takes something from the front of a text and gives it with the rest, or
refuses. Blanks are spaces and tabs; lines end with a line feed, perhaps behind
a carriage return. No other control character may stand in a text, a tab apart.

The four kinds of strings, comments and keys are those of TOML 1.0.
-/

namespace SchemaLoom.Toml

abbrev Reader (α : Type) := List Char → Option (α × List Char)

def isBlank (c : Char) : Bool := c = ' ' || c = '\t'

def skipBlanks (s : List Char) : List Char := s.dropWhile isBlank

def isAllowed (c : Char) : Bool := c = '\t' || (0x20 ≤ c.toNat && c.toNat ≠ 0x7F)

/-- What follows the end of a line that comes next. -/
def afterNewline : List Char → Option (List Char)
  | '\n' :: rest => some rest
  | '\r' :: '\n' :: rest => some rest
  | _ => none

/-- A text without the comment in front, which the end of its line ends. -/
def skipComment : List Char → List Char
  | '#' :: rest => rest.dropWhile isAllowed
  | s => s

/-- What follows the rest of a line that says nothing more. -/
def endOfLine (s : List Char) : Option (List Char) :=
  match skipComment (skipBlanks s) with
  | [] => some []
  | rest => afterNewline rest

/-- A text without the blanks, comments and ends of lines in front; so many
times at most. -/
def skipLines : Nat → List Char → List Char
  | 0, s => s
  | n + 1, s =>
    let s := skipBlanks s
    match s with
    | '#' :: _ =>
      match skipComment s with
      | [] => []
      | rest =>
        match afterNewline rest with
        | some rest => skipLines n rest
        | none => s
    | s =>
      match afterNewline s with
      | some rest => skipLines n rest
      | none => s

/-- A text without the blanks, comments and ends of lines in front. -/
def skipSpace (s : List Char) : List Char := skipLines s.length s

def hexValue? (c : Char) : Option Nat :=
  if c.isDigit then some (c.toNat - '0'.toNat)
  else if 'a' ≤ c && c ≤ 'f' then some (c.toNat - 'a'.toNat + 10)
  else if 'A' ≤ c && c ≤ 'F' then some (c.toNat - 'A'.toNat + 10)
  else none

/-- The number written by so many digits of base sixteen. -/
def hexNumber : Nat → Nat → Reader Nat
  | 0, n, s => some (n, s)
  | _ + 1, _, [] => none
  | k + 1, n, c :: rest => (hexValue? c).bind fun d => hexNumber k (16 * n + d) rest

/-- A character written by so many digits of base sixteen. -/
def hexChar (digits : Nat) : Reader Char := fun s =>
  (hexNumber digits 0 s).bind fun p => if p.1.isValidChar then some (Char.ofNat p.1, p.2) else none

def escape : Reader Char
  | 'b' :: rest => some ('\x08', rest)
  | 't' :: rest => some ('\t', rest)
  | 'n' :: rest => some ('\n', rest)
  | 'f' :: rest => some ('\x0c', rest)
  | 'r' :: rest => some ('\r', rest)
  | '\x22' :: rest => some ('\x22', rest)
  | '\\' :: rest => some ('\\', rest)
  | 'u' :: rest => hexChar 4 rest
  | 'U' :: rest => hexChar 8 rest
  | _ => none

/-- The rest of a string on one line, up to the quote that closes it. Escapes
count if the quote is double. Of so many characters at most. -/
def lineString (quote : Char) : Nat → Reader (List Char)
  | 0, _ => none
  | _ + 1, [] => none
  | n + 1, c :: rest =>
    if c = quote then some ([], rest)
    else if c = '\\' && quote = '\x22' then
      (escape rest).bind fun p =>
        (lineString quote n p.2).map fun q => (p.1 :: q.1, q.2)
    else if isAllowed c then (lineString quote n rest).map fun q => (c :: q.1, q.2)
    else none

/-- A text without the blanks and ends of lines in front. -/
def skipBreaks : List Char → List Char
  | [] => []
  | '\r' :: '\n' :: rest => skipBreaks rest
  | c :: rest => if isBlank c || c = '\n' then skipBreaks rest else c :: rest

/-- The text behind a backslash that ends its line: what follows the blanks and
ends of lines. -/
def afterContinuation (s : List Char) : Option (List Char) :=
  (afterNewline (skipBlanks s)).map skipBreaks

/-- The rest of a string over several lines, up to the three quotes that close
it, which up to two quotes of its own may precede. Of so many characters at
most. -/
def blockString (quote : Char) : Nat → Reader (List Char)
  | 0, _ => none
  | _ + 1, [] => none
  | n + 1, c :: rest =>
    if c = quote then
      let run := (c :: rest).takeWhile (· = quote)
      if 3 ≤ run.length then
        let own := min 2 (run.length - 3)
        some (List.replicate own quote, (c :: rest).drop (own + 3))
      else (blockString quote n rest).map fun q => (c :: q.1, q.2)
    else if c = '\\' && quote = '\x22' then
      match afterContinuation rest with
      | some rest => blockString quote n rest
      | none =>
        (escape rest).bind fun p =>
          (blockString quote n p.2).map fun q => (p.1 :: q.1, q.2)
    else
      match afterNewline (c :: rest) with
      | some rest => (blockString quote n rest).map fun q => ('\n' :: q.1, q.2)
      | none =>
        if isAllowed c then (blockString quote n rest).map fun q => (c :: q.1, q.2) else none

/-- A string of either form, with quotes of either kind. -/
def string : Reader (List Char)
  | a :: b :: c :: rest =>
    if a = b && b = c then
      let rest := (afterNewline rest).getD rest
      blockString a (rest.length + 1) rest
    else lineString a (rest.length + 3) (b :: c :: rest)
  | a :: rest => lineString a (rest.length + 1) rest
  | [] => none

def isBare (c : Char) : Bool := c.isAlphanum || c = '_' || c = '-'

def simpleKey (s : List Char) : Option (String × List Char) :=
  match s with
  | [] => none
  | c :: rest =>
    if c = '\x22' || c = '\x27' then
      (lineString c (rest.length + 1) rest).map fun p => (String.ofList p.1, p.2)
    else
      match s.takeWhile isBare with
      | [] => none
      | name => some (String.ofList name, s.dropWhile isBare)

/-- Keys with points between them, so many at most; blanks may surround each. -/
def dottedKey : Nat → Reader (List String)
  | 0, _ => none
  | n + 1, s =>
    (simpleKey (skipBlanks s)).bind fun p =>
      match skipBlanks p.2 with
      | '.' :: rest => (dottedKey n rest).map fun q => (p.1 :: q.1, q.2)
      | rest => some ([p.1], rest)

def maxKeys : Nat := 79

def key : Reader (List String) := dottedKey maxKeys

end SchemaLoom.Toml
