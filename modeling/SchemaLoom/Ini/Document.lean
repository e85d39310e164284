import SchemaLoom.Settings.Value
import SchemaLoom.Text.Blank

/-!
# INI documents

Sections of keys with values, which are all texts. Keys in front of the first
section belong to none. Of two sections with one name only the later one counts.
A backslash stands for a character together with what follows it, and quotes
around the start of a value keep its blanks.

The format has no standard. What is read is the common form with an equals sign
or a colon behind a key and a semicolon or a number sign in front of a comment.
No theorem is about it: what a settings file says enters a run as settings.
-/

namespace SchemaLoom.Ini

/-- What is left of a document, and the character before it, which is nothing at
the start. -/
structure Cursor where
  rest : List Char
  before : Option Char := none

namespace Cursor

def next (cursor : Cursor) : Cursor :=
  match cursor.rest with
  | [] => cursor
  | c :: rest => ⟨rest, some c⟩

/-- Whether the next character is the first of its line. -/
def startsLine (cursor : Cursor) : Bool := cursor.before.all (· = '\n')

def skipWhile (holds : Char → Bool) (cursor : Cursor) : Cursor :=
  match (cursor.rest.takeWhile holds).getLast? with
  | some c => ⟨cursor.rest.dropWhile holds, some c⟩
  | none => cursor

end Cursor

def hexChar? (digits : List Char) : Option Char :=
  let value? (c : Char) : Option Nat :=
    if c.isDigit then some (c.toNat - '0'.toNat)
    else if 'a' ≤ c && c ≤ 'f' then some (c.toNat - 'a'.toNat + 10)
    else if 'A' ≤ c && c ≤ 'F' then some (c.toNat - 'A'.toNat + 10)
    else none
  (digits.mapM value?).bind fun values =>
    let n := values.foldl (16 * · + ·) 0
    if digits.length = 4 && n.isValidChar then some (Char.ofNat n) else none

/-- What a backslash and the character behind it stand for, and the cursor
behind them. -/
def escape? (cursor : Cursor) : Option (List Char × Cursor) :=
  match cursor.rest with
  | [] => none
  | c :: rest =>
    let one (d : Char) : Option (List Char × Cursor) := some ([d], cursor.next)
    match c with
    | '0' => one '\x00'
    | 'a' => one '\x07'
    | 'b' => one '\x08'
    | 't' => one '\t'
    | 'r' => one '\r'
    | 'n' => one '\n'
    | '\n' => some ([], cursor.next)
    | 'x' => (hexChar? (rest.take 4)).map fun d => ([d], ⟨rest.drop 4, some '0'⟩)
    | c => one c

/-- The text up to one of some characters, which is not read. The end of the
document ends it only if it may. So many characters at most. -/
def textUpTo (ends : List Char) (mayEnd : Bool) : Nat → Cursor → Option (List Char × Cursor)
  | 0, _ => none
  | n + 1, cursor =>
    match cursor.rest with
    | [] => if mayEnd then some ([], cursor) else none
    | c :: _ =>
      if ends.contains c then some ([], cursor)
      else if c = '\\' then
        (escape? cursor.next).bind fun (s, cursor) =>
          (textUpTo ends mayEnd n cursor).map fun (more, cursor) => (s ++ more, cursor)
      else (textUpTo ends mayEnd n cursor.next).map fun (more, cursor) => (c :: more, cursor)

def textBefore (ends : List Char) (mayEnd : Bool) (cursor : Cursor) : Option (List Char × Cursor) :=
  textUpTo ends mayEnd (cursor.rest.length + 1) cursor

/-- The text up to the end of the line, without the blanks around it. -/
def restOfLine (cursor : Cursor) : Option (List Char × Cursor) :=
  (textBefore ['\n', '\r'] true cursor).map fun (s, cursor) => (Text.trim s, cursor)

/-- The value behind the sign that separates it from its key. -/
def value (cursor : Cursor) : Option (List Char × Cursor) :=
  let isPadding (c : Char) : Bool := Text.isBlank c && c ≠ '\n' && c ≠ '\r'
  let cursor := cursor.skipWhile isPadding
  match cursor.rest with
  | quote :: _ =>
    if quote = '\x22' || quote = '\'' then
      (textBefore [quote] false cursor.next).bind fun (s, cursor) =>
        (restOfLine cursor.next).map fun (more, cursor) => (s ++ more, cursor)
    else restOfLine cursor
  | [] => some ([], cursor)

/-- The sections of a document, those in front first, and the entries that
belong to none. -/
structure Draft where
  entries : Fields SettingValue := []
  sections : List (String × Fields SettingValue) := []

def Draft.add (draft : Draft) (key value : String) : Draft :=
  match draft.sections.reverse with
  | [] => { draft with entries := Fields.set key (.text value) draft.entries }
  | (name, entries) :: before =>
    { draft with
      sections := ((name, Fields.set key (.text value) entries) :: before).reverse }

def Draft.settings (draft : Draft) : Fields SettingValue :=
  draft.sections.foldl (fun table (name, entries) => Fields.set name (.table entries) table)
    draft.entries

/-- Reads what is left, so many pieces at most. `key` is the key that has no
value yet. -/
def readPieces (draft : Draft) (key : List Char) : Nat → Cursor → Option Draft
  | 0, _ => none
  | n + 1, cursor =>
    let cursor := cursor.skipWhile Text.isBlank
    match cursor.rest with
    | [] => some draft
    | c :: _ =>
      if c = ';' || c = '#' then
        if cursor.startsLine then readPieces draft key n (cursor.skipWhile (· ≠ '\n')) else none
      else if c = '[' then
        (textBefore [']'] false cursor.next).bind fun (name, cursor) =>
          let sections := draft.sections ++ [(String.ofList (Text.trim name), [])]
          readPieces { draft with sections } key n cursor.next
      else if c = '=' || c = ':' then
        if key = [] then none
        else
          (value cursor.next).bind fun (text, cursor) =>
            readPieces (draft.add (String.ofList key) (String.ofList text)) [] n cursor
      else
        (textBefore ['=', ':'] false cursor).bind fun (name, cursor) =>
          readPieces draft (Text.trim name) n cursor

/-- The settings in a document; none if it is no INI. -/
def parse? (text : String) : Option (Fields SettingValue) :=
  let s := text.toList
  (readPieces {} [] (2 * s.length + 2) ⟨s, none⟩).map Draft.settings

end SchemaLoom.Ini
