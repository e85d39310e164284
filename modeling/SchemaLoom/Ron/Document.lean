import SchemaLoom.Settings.Value
import SchemaLoom.Text.Lines

/-!
# RON documents

Values as they are written in a program: named fields and tuples in parentheses,
lists in brackets, maps in braces, and a value that may be there or not. Names
in front of parentheses mean nothing. A document gives settings if it has named
fields or is a map.

The grammar is the one that the notation RON is published with, its nested
comments, raw strings and names of extensions among it; the extensions change
nothing for settings. No theorem is about the format: what a settings file says
enters a run as settings.
-/

namespace SchemaLoom.Ron

abbrev Reader (α : Type) := List Char → Option (α × List Char)

def isBlank (c : Char) : Bool := c = ' ' || c = '\t' || c = '\n' || c = '\r'

/-- What follows a comment over several lines, with so many of them open around
what is left. -/
def afterComment : Nat → List Char → Option (List Char)
  | _, [] => none
  | depth, '/' :: '*' :: rest => afterComment (depth + 1) rest
  | depth, '*' :: '/' :: rest =>
    match depth with
    | 0 => some rest
    | depth + 1 => afterComment depth rest
  | depth, _ :: rest => afterComment depth rest

/-- A text without the blanks and comments in front; so many of them at most. -/
def skipUpTo : Nat → List Char → List Char
  | 0, s => s
  | n + 1, s =>
    match s.dropWhile isBlank with
    | '/' :: '/' :: rest => skipUpTo n (rest.dropWhile (· ≠ '\n'))
    | '/' :: '*' :: rest =>
      match afterComment 0 rest with
      | some rest => skipUpTo n rest
      | none => '/' :: '*' :: rest
    | rest => rest

def skip (s : List Char) : List Char := skipUpTo (s.length + 1) s

def isNameChar (c : Char) : Bool := c.isAlphanum || c = '_'

/-- A name. One that other rules would not allow stands behind a mark. -/
def name : Reader String
  | 'r' :: '#' :: rest =>
    let isRaw (c : Char) : Bool := isNameChar c || c = '.' || c = '+' || c = '-'
    let text := rest.takeWhile isRaw
    if text = [] then none else some (String.ofList text, rest.drop text.length)
  | 'r' :: '\x22' :: _ => none
  | c :: rest =>
    if isNameChar c && !c.isDigit then
      some (String.ofList (c :: rest.takeWhile isNameChar), rest.dropWhile isNameChar)
    else none
  | [] => none

/-- What follows a word that is not part of a longer name. -/
def afterWord (word : String) (s : List Char) : Option (List Char) :=
  (Text.afterPattern word.toList s).bind fun rest =>
    if rest.head?.any isNameChar then none else some rest

/-- A comma behind blanks, if there is one, and what follows it. -/
def comma (s : List Char) : Bool × List Char :=
  match skip s with
  | ',' :: rest => (true, skip rest)
  | rest => (false, rest)

def hexValue? (c : Char) : Option Nat :=
  if c.isDigit then some (c.toNat - '0'.toNat)
  else if 'a' ≤ c && c ≤ 'f' then some (c.toNat - 'a'.toNat + 10)
  else if 'A' ≤ c && c ≤ 'F' then some (c.toNat - 'A'.toNat + 10)
  else none

def hexChar? (digits : List Char) : Option Char :=
  (digits.mapM hexValue?).bind fun values =>
    let n := values.foldl (16 * · + ·) 0
    if n.isValidChar then some (Char.ofNat n) else none

def escape : Reader Char
  | '\'' :: rest => some ('\'', rest)
  | '\x22' :: rest => some ('\x22', rest)
  | '\\' :: rest => some ('\\', rest)
  | 'n' :: rest => some ('\n', rest)
  | 'r' :: rest => some ('\r', rest)
  | 't' :: rest => some ('\t', rest)
  | '0' :: rest => some ('\x00', rest)
  | 'x' :: a :: b :: rest => (hexChar? [a, b]).map (·, rest)
  | 'u' :: '\x7b' :: rest =>
    let digits := rest.takeWhile fun c => (hexValue? c).isSome
    match rest.drop digits.length with
    | '\x7d' :: rest =>
      if digits = [] || 6 < digits.length then none else (hexChar? digits).map (·, rest)
    | _ => none
  | _ => none

/-- The rest of a text up to the quote that closes it, so many characters at most. -/
def quoted : Nat → Reader (List Char)
  | 0, _ | _, [] => none
  | n + 1, c :: rest =>
    if c = '\x22' then some ([], rest)
    else if c = '\\' then do
      let (d, rest) ← escape rest
      let (more, rest) ← quoted n rest
      return (d :: more, rest)
    else (quoted n rest).map fun (more, rest) => (c :: more, rest)

/-- The rest of a text in which nothing is escaped, up to its end. -/
def raw (closing : List Char) : List Char → Option (List Char × List Char)
  | [] => none
  | c :: rest =>
    match Text.afterPattern closing (c :: rest) with
    | some rest => some ([], rest)
    | none => (raw closing rest).map fun (more, rest) => (c :: more, rest)

def string : Reader String
  | '\x22' :: rest => (quoted (rest.length + 1) rest).map fun (s, rest) => (String.ofList s, rest)
  | 'r' :: rest =>
    let marks := rest.takeWhile (· = '#')
    match rest.drop marks.length with
    | '\x22' :: rest => (raw ('\x22' :: marks) rest).map fun (s, rest) => (String.ofList s, rest)
    | _ => none
  | _ => none

def character : Reader String
  | '\'' :: '\\' :: rest => do
    let (c, rest) ← escape rest
    let rest ← Text.afterPattern ['\''] rest
    return (String.singleton c, rest)
  | '\'' :: c :: '\'' :: rest => if c = '\'' then none else some (String.singleton c, rest)
  | _ => none

def isWholeChar (c : Char) : Bool := (hexValue? c).isSome || c = '_'

def isPointChar (c : Char) : Bool :=
  c.isDigit || ['e', 'E', '.', '+', '-', '_'].contains c

/-- A whole number behind its sign. Only one with 64 bits is whole; one that is
greater has as many digits as a number with a point. -/
def whole (negative : Bool) : Reader SettingValue := fun s =>
  let (base, s) : Nat × List Char :=
    match s with
    | '0' :: 'x' :: rest => (16, rest)
    | '0' :: 'b' :: rest => (2, rest)
    | '0' :: 'o' :: rest => (8, rest)
    | rest => (10, rest)
  let digits := s.takeWhile isWholeChar
  if digits = [] || digits.head? = some '_' then none
  else do
    let values ← (digits.filter (· ≠ '_')).mapM hexValue?
    if values.all (· < base) then
      let n := values.foldl (base * · + ·) 0
      let value : Int := if negative then -n else n
      let rest := s.drop digits.length
      if value < -(Int.pow 2 63) || Int.pow 2 64 ≤ value then none
      else if value < Int.pow 2 63 then return (.integer value, rest)
      else return (.number (.finite (.ofInt value)), rest)
    else none

/-- A number. It has a point if its first characters go on further as one with a
point. -/
def number : Reader SettingValue := fun s =>
  let (mark, behind) : List Char × List Char :=
    match s with
    | '+' :: rest => (['+'], rest)
    | '-' :: rest => (['-'], rest)
    | rest => ([], rest)
  if (behind.takeWhile isWholeChar).length < (behind.takeWhile isPointChar).length then
    let text := s.takeWhile isPointChar
    if text.contains '_' then none
    else (Wide.ofText? text).map fun x => (.number x, s.drop text.length)
  else whole (mark = ['-']) behind

def hasNames (s : List Char) : Bool :=
  match name s with
  | some (_, rest) => (skip rest).head? = some ':'
  | none => false

def word (s : List Char) : Option (SettingValue × List Char) :=
  [("true", SettingValue.bool true), ("false", .bool false), ("None", .nothing),
    ("inf", .number (.infinite false)), ("-inf", .number (.infinite true)),
    ("NaN", .number .notANumber)].findSome? fun (text, given) =>
      (afterWord text s).map fun rest => (given, rest)

mutual

def value : Nat → Reader SettingValue
  | 0, _ => none
  | n + 1, s =>
    match word s, afterWord "Some" s, name s with
    | some found, _, _ => some found
    | none, some rest, _ => do
      let rest ← Text.afterPattern ['('] (skip rest)
      let (given, rest) ← value n (skip rest)
      let rest ← Text.afterPattern [')'] (comma rest).2
      return (given, rest)
    | none, none, some (_, rest) =>
      match skip rest with
      | '(' :: inner => group n inner
      | rest => some (.nothing, rest)
    | none, none, none =>
      match s with
      | '(' :: ')' :: rest => some (.nothing, rest)
      | '(' :: inner => group n inner
      | '[' :: rest => (items n ']' [] (skip rest)).map fun (items, rest) => (.list items, rest)
      | '\x7b' :: rest =>
        (entries n '\x7d' [] (skip rest)).map fun (entries, rest) => (.table entries, rest)
      | '\'' :: _ => (character s).map fun (text, rest) => (.text text, rest)
      | '\x22' :: _ | 'r' :: _ => (string s).map fun (text, rest) => (.text text, rest)
      | s => number s
termination_by structural n => n

/-- What parentheses hold behind the first: named fields, or values in order. -/
def group : Nat → Reader SettingValue
  | 0, _ => none
  | n + 1, s =>
    let s := skip s
    if hasNames s then (entries n ')' [] s).map fun (entries, rest) => (.table entries, rest)
    else (items n ')' [] s).map fun (items, rest) => (.list items, rest)
termination_by structural n => n

/-- Values in order behind those read before, and the character that closes them. -/
def items : Nat → Char → List SettingValue → Reader (List SettingValue)
  | 0, _, _, _ => none
  | n + 1, closing, before, s =>
    if s.head? = some closing then some (before, s.tail)
    else do
      let (item, rest) ← value n s
      let (goesOn, rest) := comma rest
      if goesOn then items n closing (before ++ [item]) rest
      else if rest.head? = some closing then return (before ++ [item], rest.tail)
      else none
termination_by structural n => n

/-- Keys with their values behind those read before, and the character that
closes them. Within parentheses the keys are names. -/
def entries : Nat → Char → Fields SettingValue → Reader (Fields SettingValue)
  | 0, _, _, _ => none
  | n + 1, closing, before, s =>
    if s.head? = some closing then some (before, s.tail)
    else do
      let (key, rest) ←
        if closing = ')' then name s
        else
          match value n s with
          | some (.text key, rest) => some (key, rest)
          | _ => none
      let rest ← Text.afterPattern [':'] (skip rest)
      let (given, rest) ← value n (skip rest)
      let after := Fields.set key given before
      let (goesOn, rest) := comma rest
      if goesOn then entries n closing after rest
      else if rest.head? = some closing then return (after, rest.tail)
      else none
termination_by structural n => n

end

/-- The extensions that a document may ask for. They change nothing for settings. -/
def extensions : List String :=
  ["unwrap_newtypes", "implicit_some", "unwrap_variant_newtypes"]

/-- The names of extensions with commas between them, so many at most, and what
follows them. -/
def skipNames : Nat → List Char → Option (List Char)
  | 0, _ => none
  | n + 1, s => do
    let (extension, rest) ← name s
    if !extensions.contains extension then none
    else
      let (goesOn, rest) := comma rest
      if goesOn && rest.head?.any isNameChar then skipNames n rest else some rest

/-- A text without the lines in front that ask for extensions; so many at most. -/
def skipExtensions : Nat → List Char → Option (List Char)
  | 0, _ => none
  | n + 1, s =>
    match skip s with
    | '#' :: rest => do
      let opening := ["!", "[", "enable", "("]
      let rest ← opening.foldlM (fun rest word => Text.afterPattern word.toList (skip rest)) rest
      let rest ← skipNames rest.length (skip rest)
      let rest ← [")", "]"].foldlM (fun rest word => Text.afterPattern word.toList (skip rest)) rest
      skipExtensions n rest
    | rest => some rest

/-- The settings in a document; none if it is no RON or gives no fields. -/
def parse? (text : String) : Option (Fields SettingValue) := do
  let s ← skipExtensions (text.length + 1) text.toList
  let (given, rest) ← value (3 * s.length + 3) s
  match given, skip rest with
  | .table entries, [] => some entries
  | _, _ => none

end SchemaLoom.Ron
