import SchemaLoom.Yaml.Cursor
import SchemaLoom.Yaml.Scalar

/-!
# Texts in YAML

A text stands between quotes, without quotes, or in a block of lines. Between
quotes and without them a single line end is a blank, and of several the first
is left out. What surrounds a text begins in a column, `indent`, and its lines
must begin behind it.

These are the five scalar styles of YAML 1.2 with its rules for folding lines
and for the line ends at the end of a block.
-/

namespace SchemaLoom.Yaml

/-- What so many line ends within a text stand for. -/
def folded (count : Nat) : List Char :=
  if count = 1 then [' '] else List.replicate (count - 1) '\n'

/-- The character that so many digits of base sixteen write, with how many
characters that takes behind the backslash. -/
def hexChar? (count : Nat) (s : List Char) : Option (Char × Nat) :=
  ((s.take count).mapM (digit? 16)).bind fun values =>
    let n := values.foldl (16 * · + ·) 0
    if values.length = count && n.isValidChar then some (Char.ofNat n, count + 1) else none

/-- What a backslash stands for together with what follows it, and how many
characters that are. -/
def escape? : List Char → Option (Char × Nat)
  | [] => none
  | c :: rest =>
    let one (n : Nat) : Option (Char × Nat) := some (Char.ofNat n, 1)
    match c with
    | '0' => one 0
    | 'a' => one 7
    | 'b' => one 8
    | 't' | '\t' => one 9
    | 'n' => one 10
    | 'v' => one 11
    | 'f' => one 12
    | 'r' => one 13
    | 'e' => one 0x1B
    | ' ' | '\x22' | '/' | '\\' => some (c, 1)
    | 'N' => one 0x85
    | '_' => one 0xA0
    | 'L' => one 0x2028
    | 'P' => one 0x2029
    | 'x' => hexChar? 2 rest
    | 'u' => hexChar? 4 rest
    | 'U' => hexChar? 8 rest
    | _ => none

/-- Goes on behind line ends and the blanks around them, within so many
characters: how many line ends there were. No tab starts a line in front of the
column. -/
def skipBreaks? (column : Int) : Nat → Cursor → Option (Nat × Cursor)
  | 0, cursor => some (0, cursor)
  | n + 1, cursor =>
    match cursor.rest with
    | '\n' :: _ => (skipBreaks? column n cursor.next).map fun (count, cursor) => (count + 1, cursor)
    | c :: _ =>
      if !isBlank c then some (0, cursor)
      else if c = '\t' && cursor.isLeading && cursor.column < column then none
      else skipBreaks? column n cursor.next
    | [] => some (0, cursor)

/-- The text up to the quote that closes it, within so many characters. Blanks
before a line end are lost. Between single quotes a quote is written twice, and
between double ones a backslash gives what follows it another meaning. -/
def quotedText? (quote : Char) (indent : Int) : Nat → Cursor → Option (List Char × Cursor)
  | 0, _ => none
  | n + 1, cursor =>
    let go (s : List Char) (cursor : Cursor) : Option (List Char × Cursor) :=
      (quotedText? quote indent n cursor).map fun (more, cursor) => (s ++ more, cursor)
    match cursor.rest with
    | [] => none
    | c :: rest =>
      if isBlank c || c = '\n' then
        let blanks := cursor.rest.takeWhile isBlank
        let after := cursor.skip blanks.length
        if after.rest.head? = some '\n' then
          (skipBreaks? indent (cursor.rest.length + 1) after).bind fun (count, cursor) =>
            go (folded count) cursor
        else go blanks after
      else if cursor.isMarker || cursor.column < indent then none
      else if c = quote then
        if quote = '\'' && rest.head? = some '\'' then go ['\''] (cursor.skip 2)
        else some ([], cursor.next)
      else if c = '\\' && quote = '\x22' then
        if rest.head? = some '\n' then
          (skipBreaks? indent (cursor.rest.length + 1) (cursor.skip 2)).bind fun (count, cursor) =>
            go (List.replicate count '\n') cursor
        else
          (escape? rest).bind fun (d, count) => go [d] (cursor.skip (count + 1))
      else go [c] cursor.next

/-- The text between quotes from the first quote on. What follows it in its line
may only be a comment, a colon, or a mark of the brackets around it. -/
def quoted? (inFlow : Bool) (indent : Int) (cursor : Cursor) : Option (List Char × Cursor) := do
  let quote ← cursor.rest.head?
  let (text, last) ← quotedText? quote indent (cursor.rest.length + 1) cursor.next
  let (_, after) ← last.skipBlanks? true
  match after.rest.head? with
  | none | some '\n' => return (text, after)
  | some c =>
    if c = ':' then
      if inFlow || cursor.line = after.line then return (text, after) else none
    else if inFlow && [',', ']', '\x7d'].contains c then return (text, after)
    else none

/-- How many characters there are up to a blank, a colon in front of one, or a
mark of brackets. -/
def wordLength (inFlow : Bool) : List Char → Nat
  | [] => 0
  | c :: rest =>
    if isBlank c || c = '\n' || (inFlow && isFlowMark c) ||
        (c = ':' && (isGap rest || (inFlow && rest.head?.any isFlowMark))) then 0
    else wordLength inFlow rest + 1

/-- What stands between two words: nothing, blanks, or line ends. A tab in front
of the column starts no line but an empty one. -/
def gapWithin? (column : Int) : Nat → Cursor → Option (Nat × Cursor)
  | 0, cursor => some (0, cursor)
  | n + 1, cursor =>
    match cursor.rest with
    | '\n' :: _ => (gapWithin? column n cursor.next).map fun (count, cursor) => (count + 1, cursor)
    | c :: _ =>
      if !isBlank c then some (0, cursor)
      else if c = '\t' && cursor.isLeading && cursor.column < column then
        (cursor.skipBlanks? true).bind fun (_, cursor) =>
          if isLineEnd cursor.rest then gapWithin? column n cursor else none
      else gapWithin? column n cursor.next
    | [] => some (0, cursor)

/-- The words from here on, at most so many. Lines of a text that goes on begin
in the given column at least. -/
def plainText? (inFlow : Bool) (column : Int) : Nat → Cursor → Option (List Char × Cursor)
  | 0, cursor => some ([], cursor)
  | n + 1, cursor =>
    if cursor.isMarker || cursor.rest.head? = some '#' then some ([], cursor)
    else if inFlow && cursor.rest.head? = some '-' && (cursor.rest.drop 1).head?.any isFlowMark then
      none
    else
      let word := cursor.rest.take (wordLength inFlow cursor.rest)
      let after := cursor.skip word.length
      if !isGap after.rest || after.rest = [] then some (word, after)
      else do
        let blanks := after.rest.takeWhile isBlank
        let (count, next) ← gapWithin? column (after.rest.length + 1) after
        if !inFlow && next.column < column then return (word, next)
        let (more, last) ← plainText? inFlow column n next
        let joint := if count = 0 then blanks else folded count
        return (if more = [] then word else word ++ joint ++ more, last)

def plain? (inFlow : Bool) (indent : Int) (cursor : Cursor) : Option (List Char × Cursor) :=
  if inFlow && cursor.column < indent + 1 then none
  else (plainText? inFlow (indent + 1) (cursor.rest.length + 1) cursor).filter (·.1 ≠ [])

inductive Chomping where
  | dropAll
  | keepOne
  | keepAll
  deriving DecidableEq, Repr

/-- What the mark in front of a block says: the line ends to keep, and by how
much lines are indented. -/
def blockHeader? (header : List Char) : Option (Chomping × Nat) :=
  let chomping? (c : Char) : Option Chomping :=
    if c = '+' then some .keepAll else if c = '-' then some .dropAll else none
  let indent? (c : Char) : Option Nat :=
    if c.isDigit && c ≠ '0' then some (c.toNat - '0'.toNat) else none
  match header with
  | [] => some (.keepOne, 0)
  | [c] => ((chomping? c).map (·, 0)).or ((indent? c).map (.keepOne, ·))
  | [c, d] =>
    match chomping? c with
    | some chomping => (indent? d).map (chomping, ·)
    | none => (indent? c).bind fun indent => (chomping? d).map (·, indent)
  | _ => none

/-- Goes on behind empty lines and the blanks that start a line, up to the column. -/
def skipIndent (column : Nat) : Nat → Cursor → Nat × Cursor
  | 0, cursor => (0, cursor)
  | n + 1, cursor =>
    match cursor.rest with
    | ' ' :: _ => if cursor.column < column then skipIndent column n cursor.next else (0, cursor)
    | '\n' :: _ =>
      let (count, cursor) := skipIndent column n cursor.next
      (count + 1, cursor)
    | _ => (0, cursor)

/-- The greatest column of the empty lines that come first and of the blanks
behind them. -/
def firstIndent : Nat → Cursor → Nat
  | 0, _ => 0
  | n + 1, cursor =>
    let after := cursor.skipWhile (· = ' ')
    if after.rest.head? = some '\n' then max after.column (firstIndent n after.next)
    else after.column

/-- A line of a block, with how many line ends came before it. -/
structure BlockLine where
  emptyBefore : Nat
  text : List Char

def BlockLine.startsBlank (line : BlockLine) : Bool := line.text.head?.any isBlank

/-- The lines of a block in its column, at most so many, with the line ends
behind them and whether the last line has one. -/
def blockLines (column : Nat) : Nat → Nat × Cursor → List BlockLine × Bool × Nat × Cursor
  | 0, (count, cursor) => ([], true, count, cursor)
  | n + 1, (count, cursor) =>
    if cursor.column = column && cursor.rest ≠ [] && !(column = 0 && cursor.isMarker) then
      let text := cursor.rest.takeWhile (· ≠ '\n')
      let after := cursor.skip text.length
      let line : BlockLine := ⟨count, text⟩
      if after.rest = [] then ([line], false, 0, after)
      else
        let (lines, last) :=
          blockLines column n (skipIndent column (after.rest.length + 1) after.next)
        (line :: lines, last)
    else ([], true, count, cursor)

/-- The text of the lines of a block. Where it is folded a line end is a blank,
unless one of the lines around it starts with a blank. -/
def blockText (isFolded : Bool) : Option BlockLine → List BlockLine → List Char
  | _, [] => []
  | before, line :: rest =>
    let joint : List Char :=
      match before with
      | none => []
      | some before =>
        if isFolded && !before.startsBlank && !line.startsBlank then
          if line.emptyBefore = 0 then [' '] else []
        else ['\n']
    joint ++ List.replicate line.emptyBefore '\n' ++ line.text ++
      blockText isFolded (some line) rest

def block? (indent : Int) (cursor : Cursor) : Option (List Char × Cursor) := do
  let isFolded := cursor.rest.head? = some '>'
  let start := cursor.next
  let header := start.rest.takeWhile fun c => c = '+' || c = '-' || c.isDigit
  let (chomping, extra) ← blockHeader? header
  let (_, after) ← (start.skip header.length).skipBlanks? true
  if !isLineEnd after.rest then none
  else
    let body := after.next
    if body.rest.head? = some '\t' then none
    else
      let fuel := body.rest.length + 1
      let column :=
        if 0 < extra then (max indent 0).toNat + extra
        else
          let column := max (firstIndent fuel body) (indent + 1).toNat
          if 0 < indent then max column 1 else column
      let (count, first) := skipIndent column fuel body
      if first.rest = [] then
        let text : List Char :=
          if chomping = .dropAll || after.rest = [] then []
          else if chomping = .keepAll && 0 < count then List.replicate count '\n'
          else ['\n']
        return (text, first)
      else if first.column < column && indent < first.column then none
      else
        let (lines, isEnded, count, last) := blockLines column fuel (count, first)
        let lineEnd : List Char :=
          if chomping = .dropAll || lines = [] then []
          else if isEnded || max column 1 ≤ last.column then ['\n']
          else []
        let atEnd : List Char :=
          if chomping ≠ .dropAll && isEnded && last.rest = [] && max column 1 ≤ last.column then
            ['\n']
          else []
        let lineEnds : List Char := if chomping = .keepAll then List.replicate count '\n' else []
        return (blockText isFolded none lines ++ lineEnd ++ atEnd ++ lineEnds, last)

end SchemaLoom.Yaml
