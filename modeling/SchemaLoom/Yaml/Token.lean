import SchemaLoom.Yaml.Text

/-!
# Tokens of YAML

The tokens of a document, with marks where blocks begin and end. A block begins
where something stands behind the column of what surrounds it, and ends in front
of what stands before its own column. A key of one line is known by the colon
behind it, so that its mark is put in front of it afterwards.

YAML 1.2 gives its grammar in terms of columns; cutting a document into tokens
with marks for blocks is how it is commonly read.
-/

namespace SchemaLoom.Yaml

/-- A token of a document. The marks where blocks begin and end are tokens too,
although nothing is written for them. -/
inductive Token where
  | version
  | tagDirective (handle start : String)
  | documentStart
  | documentEnd
  | listStart
  | mapStart
  | blockEnd
  | flowListStart
  | flowListEnd
  | flowMapStart
  | flowMapEnd
  | item
  | comma
  | key
  | value
  | alias (name : String)
  | anchor (name : String)
  | tag (handle suffix : String)
  | scalar (scalar : Scalar)
  deriving DecidableEq, Repr

/-- A place where a key may have begun, with the tokens before it. A colon may
still make it a key; where nothing but a key may stand, one must come. -/
structure KeyPlace where
  isPossible : Bool := false
  isRequired : Bool := false
  tokens : Nat := 0
  start : Cursor := ⟨[], 0, 0, 0, true⟩

/-- The column of what surrounds a block, and whether the block is marked by
tokens. -/
structure Indent where
  outer : Int
  isBlock : Bool

/-- What is known while the tokens are read: where the reading stands, the
tokens so far, the blocks around by their columns, and the places where a key
may have begun, one for each pair of brackets that is open. -/
structure Scanner where
  cursor : Cursor
  tokens : Array Token := #[]
  indent : Int := -1
  indents : List Indent := []
  place : KeyPlace := {}
  places : List KeyPlace := []
  allowsKey : Bool := true
  adjacent : Option Nat := none

abbrev Scan := StateT Scanner Option

namespace Scan

def isInFlow : Scan Bool := return (← get).places.length ≠ 0

def push (token : Token) : Scan Unit :=
  modify fun s => { s with tokens := s.tokens.push token }

def insert (place : Nat) (token : Token) : Scan Unit :=
  modify fun s => { s with tokens := s.tokens.insertIdxIfInBounds place token }

def goTo (cursor : Cursor) : Scan Unit := modify fun s => { s with cursor }

def allowKey (allowsKey : Bool) : Scan Unit := modify fun s => { s with allowsKey }

def require (holds : Bool) : Scan Unit := if holds then pure () else failure

def skipBlanks (withTabs : Bool) : Scan Cursor.Gap := do
  let (gap, cursor) ← (← get).cursor.skipBlanks? withTabs
  goTo cursor
  return gap

def leaveBlocks (column : Int) : Scan Unit := do
  if !(← isInFlow) then
    let s ← get
    let (left, indents) := (go s.indent s.indents)
    set { s with
      indent := left.2
      indents
      tokens := s.tokens ++ Array.replicate left.1 Token.blockEnd }
where
  go (indent : Int) : List Indent → (Nat × Int) × List Indent
    | [] => ((0, indent), [])
    | block :: rest =>
      if column < indent then
        let ((count, left), indents) := go block.outer rest
        ((if block.isBlock then count + 1 else count, left), indents)
      else ((0, indent), block :: rest)

def leaveColumns : Scan Unit :=
  modify fun s =>
    let columns := s.indents.takeWhile (!·.isBlock)
    { s with
      indent := (columns.getLast?.map (·.outer)).getD s.indent
      indents := s.indents.drop columns.length }

/-- Begins a block if the column is behind the one around it. Its token comes
behind the given number of tokens. -/
def enterBlock (column : Nat) (place : Nat) (token : Token) : Scan Unit := do
  if !(← isInFlow) then
    let s ← get
    match s.indents with
    | block :: rest =>
      if s.indent ≤ column && !block.isBlock then
        set { s with indent := block.outer, indents := rest }
    | [] => pure ()
    let s ← get
    if s.indent < column then
      set { s with indent := column, indents := ⟨s.indent, true⟩ :: s.indents }
      insert place token

/-- What comes must stand behind the column, and no tokens mark that. -/
def enterColumn : Scan Unit := do
  if !(← isInFlow) then
    modify fun s =>
      match s.indents with
      | block :: _ =>
        if block.isBlock then
          { s with indent := s.indent + 1, indents := ⟨s.indent, false⟩ :: s.indents }
        else s
      | [] => s

def notePlace : Scan Unit := do
  let inFlow ← isInFlow
  modify fun s =>
    if s.allowsKey then
      let isRequired :=
        !inFlow && s.indent = s.cursor.column && (s.indents.head?.any fun block => block.isBlock)
      { s with place := ⟨true, isRequired, s.tokens.size, s.cursor⟩ }
    else s

def dropPlace : Scan Unit := do
  let s ← get
  require !(s.place.isPossible && s.place.isRequired)
  set { s with place := { s.place with isPossible := false } }

/-- What was noted is no key either if its line is over or it is too long. -/
def dropStalePlace : Scan Unit := do
  let s ← get
  let start := s.place.start
  if s.places.length = 0 && s.place.isPossible &&
      (start.line < s.cursor.line || start.index + 1024 < s.cursor.index) then dropPlace

/-- Goes on to the next token. Tabs are no indentation. -/
def skipToToken : Nat → Scan Unit
  | 0 => failure
  | n + 1 => do
    let s ← get
    match s.cursor.rest with
    | '\t' :: _ =>
      if !s.indents.isEmpty && s.cursor.isLeading && s.cursor.column < s.indent then do
        let _ ← skipBlanks true
        require (isLineEnd (← get).cursor.rest)
        skipToToken n
      else do
        goTo s.cursor.next
        skipToToken n
    | ' ' :: _ =>
      goTo s.cursor.next
      skipToToken n
    | '\n' :: _ =>
      goTo s.cursor.next
      if s.places.length = 0 then allowKey true
      skipToToken n
    | '#' :: _ =>
      goTo (s.cursor.skipWhile (· ≠ '\n'))
      skipToToken n
    | _ => pure ()

/-- Whether a character belongs to the name of an anchor. -/
def isAnchorChar (c : Char) : Bool :=
  !(isBlank c || c = '\n' || c = '\uFEFF' || isFlowMark c)

def isTagChar (c : Char) : Bool :=
  c.isAlphanum || "-#;/?:@&=+$_.~*'()%".toList.contains c

def unescaped (s : List Char) : String :=
  String.ofList (go s.length s)
where
  go : Nat → List Char → List Char
    | n + 1, '%' :: a :: b :: rest =>
      match digit? 16 a, digit? 16 b with
      | some x, some y => Char.ofNat (16 * x + y) :: go n rest
      | _, _ => '%' :: go n (a :: b :: rest)
    | n + 1, c :: rest => c :: go n rest
    | _, s => s

def readTag : Scan Token := do
  let start := (← get).cursor
  let token : Token ←
    match start.rest.drop 1 with
    | '<' :: rest =>
      let uri := rest.takeWhile fun c => isTagChar c || [',', '[', ']', '!'].contains c
      require (uri ≠ [] && (rest.drop uri.length).head? = some '>')
      goTo (start.skip (uri.length + 3))
      pure (Token.tag "" (unescaped uri))
    | rest =>
      let name := rest.takeWhile fun c => c.isAlphanum || c = '_' || c = '-'
      if (rest.drop name.length).head? = some '!' then
        let suffix := (rest.drop (name.length + 1)).takeWhile isTagChar
        require (suffix ≠ [])
        goTo (start.skip (name.length + suffix.length + 2))
        pure (Token.tag ("!" ++ String.ofList name ++ "!") (unescaped suffix))
      else
        let suffix := rest.takeWhile isTagChar
        goTo (start.skip (suffix.length + 1))
        pure (if suffix = [] then Token.tag "" "!" else Token.tag "!" (unescaped suffix))
  let rest := (← get).cursor.rest
  require (isGap rest || ((← isInFlow) && rest.head?.any isFlowMark))
  return token

/-- A line that says how the document is to be read. -/
def directive : Scan Unit := do
  leaveBlocks (-1)
  dropPlace
  allowKey false
  let start := (← get).cursor.next
  let name := start.rest.takeWhile fun c => c.isAlphanum || c = '_' || c = '-'
  let after := start.skip name.length
  require (name ≠ [] && isGap after.rest)
  let after := after.skipWhile isBlank
  match String.ofList name with
  | "YAML" =>
    let major := after.rest.takeWhile Char.isDigit
    let minor := (after.rest.drop (major.length + 1)).takeWhile Char.isDigit
    require (major ≠ [] && minor ≠ [] && (after.rest.drop major.length).head? = some '.')
    goTo (after.skip (major.length + minor.length + 1))
    push .version
  | "TAG" =>
    let handle := after.rest.takeWhile (!isGap [·])
    let after := (after.skip handle.length).skipWhile isBlank
    let start := after.rest.takeWhile (!isGap [·])
    require (handle.head? = some '!' && handle.getLast? = some '!' && start ≠ [])
    goTo (after.skip start.length)
    push (.tagDirective (String.ofList handle) (unescaped start))
  | _ =>
    goTo (after.skipWhile (· ≠ '\n'))
    push (.tagDirective "" "")
  let _ ← skipBlanks true
  require (isLineEnd (← get).cursor.rest)

def marker (token : Token) : Scan Unit := do
  leaveBlocks (-1)
  dropPlace
  allowKey false
  goTo ((← get).cursor.skip 3)
  push token

def openFlow (token : Token) : Scan Unit := do
  notePlace
  enterColumn
  let s ← get
  require (s.places.length < 255)
  set { s with
    places := s.place :: s.places, place := {}, allowsKey := true, cursor := s.cursor.next }
  let _ ← skipBlanks true
  push token

def closeFlow (token : Token) : Scan Unit := do
  dropPlace
  modify fun s =>
    match s.places with
    | place :: places => { s with place, places }
    | [] => s
  allowKey false
  goTo (← get).cursor.next
  let _ ← skipBlanks true
  modify fun s => if s.places.isEmpty then s else { s with adjacent := some s.cursor.index }
  push token

def comma : Scan Unit := do
  dropPlace
  allowKey true
  goTo (← get).cursor.next
  let _ ← skipBlanks true
  push .comma

def item : Scan Unit := do
  require !(← isInFlow)
  let s ← get
  require s.allowsKey
  goTo s.cursor.next
  enterBlock s.cursor.column s.tokens.size .listStart
  let gap ← skipBlanks true
  let rest := (← get).cursor.rest
  require !(gap.hasTab && rest.head? = some '-' && isGap (rest.drop 1))
  if rest.head?.any fun c => c = '\n' || isFlowMark c then enterColumn
  dropPlace
  allowKey true
  push .item

def explicitKey : Scan Unit := do
  let inFlow ← isInFlow
  let s ← get
  if !inFlow then
    require s.allowsKey
    enterBlock s.cursor.column s.tokens.size .mapStart
  dropPlace
  allowKey !inFlow
  goTo (← get).cursor.next
  let gap ← skipBlanks false
  let rest := (← get).cursor.rest
  require (rest.head? ≠ some '\t' && (gap.hasSpace || isLineEnd rest))
  push .key

def value (isInList : Bool) : Scan Unit := do
  let inFlow ← isInFlow
  let s ← get
  let place := s.place
  let start := s.cursor
  goTo start.next
  if start.next.rest.head? = some '\t' then
    let gap ← skipBlanks true
    let rest := (← get).cursor.rest
    require (gap.hasSpace || !rest.head?.any fun c => c = '-' || c.isAlphanum)
  if place.isPossible then
    require !(isInList && place.start.line < start.line)
    insert place.tokens .key
    enterBlock place.start.column place.tokens .mapStart
    enterColumn
    modify fun s => { s with place := { s.place with isPossible := false } }
    allowKey false
  else
    if !inFlow then
      require s.allowsKey
      enterBlock start.column s.tokens.size .mapStart
    enterColumn
    allowKey !inFlow
  push .value

def anchor (token : String → Token) : Scan Unit := do
  notePlace
  allowKey false
  let cursor := (← get).cursor.next
  let name := cursor.rest.takeWhile isAnchorChar
  require (name ≠ [])
  goTo (cursor.skip name.length)
  push (token (String.ofList name))

def text (isPlain : Bool) (read : Bool → Int → Cursor → Option (List Char × Cursor)) :
    Scan Unit := do
  let inFlow ← isInFlow
  let s ← get
  let (text, cursor) ← read inFlow s.indent s.cursor
  goTo cursor
  push (.scalar ⟨String.ofList text, isPlain⟩)

def quoted : Scan Unit := do
  notePlace
  allowKey false
  text false quoted?
  skipToToken ((← get).cursor.rest.length + 1)
  modify fun s => { s with adjacent := some s.cursor.index }

/-- A text without quotes. Where it ends in front of a line a key may begin. -/
def plain : Scan Unit := do
  notePlace
  allowKey false
  leaveColumns
  text true plain?
  if (← get).cursor.isLeading then allowKey true

def block : Scan Unit := do
  notePlace
  allowKey true
  leaveColumns
  text false fun _ => block?

def finish : Scan Unit := do
  let s ← get
  require !((s.place :: s.places).any fun place => place.isPossible && place.isRequired)
  set { s with place := { s.place with isPossible := false } }
  leaveBlocks (-1)

/-- Reads the next token. `inList` says whether the innermost brackets are those
of a list. -/
def readToken (inList : Bool) (c : Char) (rest : List Char) : Scan Unit := do
  let inFlow ← isInFlow
  let s ← get
  let isAdjacent := inFlow && (rest.head?.any isFlowMark || s.adjacent = some s.cursor.index)
  match c with
  | '[' => openFlow .flowListStart
  | '\x7b' => openFlow .flowMapStart
  | ']' => closeFlow .flowListEnd
  | '\x7d' => closeFlow .flowMapEnd
  | ',' => comma
  | '*' => anchor .alias
  | '&' => anchor .anchor
  | '!' =>
    notePlace
    allowKey false
    push (← readTag)
  | '\'' | '\x22' => quoted
  | _ =>
    if c = '-' && isGap rest then item
    else if c = '?' && isGap rest then explicitKey
    else if c = ':' && (isGap rest || isAdjacent) then value inList
    else if (c = '|' || c = '>') && !inFlow then block
    else if ['%', '@', '\x60'].contains c then failure
    else plain

/-- Reads all tokens, at most so many. `lists` says of the brackets around
whether they are those of a list. -/
def readTokens : Nat → List Bool → Scan Unit
  | 0, _ => failure
  | n + 1, lists => do
    skipToToken ((← get).cursor.rest.length + 1)
    dropStalePlace
    let s ← get
    leaveBlocks s.cursor.column
    match s.cursor.rest with
    | [] => finish
    | c :: rest =>
      if s.cursor.column = 0 && c = '%' then
        directive
        readTokens n lists
      else if s.cursor.isMarker then
        if c = '-' then marker .documentStart
        else
          marker .documentEnd
          let _ ← skipBlanks true
          require (isLineEnd (← get).cursor.rest)
        readTokens n lists
      else
        let s ← get
        require (s.indent ≤ s.cursor.column)
        readToken (lists.head? = some true) c rest
        readTokens n
          (if c = '[' then true :: lists
          else if c = '\x7b' then false :: lists
          else if c = ']' || c = '\x7d' then lists.drop 1
          else lists)

end Scan

/-- The tokens of a document; none if it is no YAML. -/
def tokens? (s : List Char) : Option (List Token) :=
  ((Scan.readTokens (s.length + 2) []).run { cursor := ⟨s, 0, 0, 0, true⟩ }).map (·.2.tokens.toList)

end SchemaLoom.Yaml
