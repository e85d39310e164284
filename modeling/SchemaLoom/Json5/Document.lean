import SchemaLoom.Settings.Value
import SchemaLoom.Text.Lines
import SchemaLoom.Text.Word

/-!
# JSON5 documents

JSON with comments, with names and single quotes for keys and texts, with commas
behind last items, and with more ways to write numbers. A document gives
settings if it is an object.

Documents are those of JSON5 1.0, whose names are the identifiers of its grammar
and whose blanks are those of Unicode. No theorem is about the format: what a
settings file says enters a run as settings.
-/

namespace SchemaLoom.Json5

abbrev Reader (α : Type) := List Char → Option (α × List Char)

def endsLine (c : Char) : Bool :=
  c = '\n' || c = '\r' || c.toNat = 0x2028 || c.toNat = 0x2029

def isBlank (c : Char) : Bool :=
  let n := c.toNat
  endsLine c || n = 9 || n = 0x0B || n = 0x0C || n = 0x20 || n = 0xA0 || n = 0xFEFF || n = 0x1680 ||
    (0x2000 ≤ n && n ≤ 0x200A) || n = 0x202F || n = 0x205F || n = 0x3000

/-- What follows the end of a comment over several lines. -/
def afterComment : List Char → Option (List Char)
  | [] => none
  | '*' :: '/' :: rest => some rest
  | _ :: rest => afterComment rest

/-- A text without the blanks and comments in front; so many of them at most. -/
def skipUpTo : Nat → List Char → List Char
  | 0, s => s
  | n + 1, s =>
    match s.dropWhile isBlank with
    | '/' :: '/' :: rest => skipUpTo n (rest.dropWhile fun c => !endsLine c)
    | '/' :: '*' :: rest =>
      match afterComment rest with
      | some rest => skipUpTo n rest
      | none => '/' :: '*' :: rest
    | rest => rest

def skip (s : List Char) : List Char := skipUpTo (s.length + 1) s

def hexValue? (c : Char) : Option Nat :=
  if c.isDigit then some (c.toNat - '0'.toNat)
  else if 'a' ≤ c && c ≤ 'f' then some (c.toNat - 'a'.toNat + 10)
  else if 'A' ≤ c && c ≤ 'F' then some (c.toNat - 'A'.toNat + 10)
  else none

/-- The number that so many digits of base sixteen write. -/
def hexNumber (count : Nat) : Reader Nat := fun s =>
  if s.length < count then none
  else ((s.take count).mapM hexValue?).map fun values => (values.foldl (16 * · + ·) 0, s.drop count)

/-- The character behind `\u`. One that takes two units is written as two escapes. -/
def unicodeEscape : Reader Char := fun s => do
  let (first, rest) ← hexNumber 4 s
  if 0xD800 ≤ first && first ≤ 0xDBFF then
    let rest ← Text.afterPattern ['\\', 'u'] rest
    let (second, rest) ← hexNumber 4 rest
    if 0xDC00 ≤ second && second ≤ 0xDFFF then
      return (Char.ofNat (0x10000 + (first - 0xD800) * 1024 + (second - 0xDC00)), rest)
    else none
  else if first.isValidChar then return (Char.ofNat first, rest)
  else none

/-- What a backslash and the characters behind it stand for; a line that it ends
goes on. -/
def escape : Reader (List Char)
  | [] => none
  | '\r' :: '\n' :: rest => some ([], rest)
  | c :: rest =>
    match c with
    | 'b' => some (['\x08'], rest)
    | 'f' => some (['\x0c'], rest)
    | 'n' => some (['\n'], rest)
    | 'r' => some (['\r'], rest)
    | 't' => some (['\t'], rest)
    | 'v' => some (['\x0b'], rest)
    | '0' => some (['\x00'], rest)
    | 'x' => (hexNumber 2 rest).map fun (n, rest) => ([Char.ofNat n], rest)
    | 'u' => (unicodeEscape rest).map fun (d, rest) => ([d], rest)
    | c => if endsLine c then some ([], rest) else if c.isDigit then none else some ([c], rest)

/-- The rest of a text up to the quote that closes it, so many characters at most. -/
def quoted (quote : Char) : Nat → Reader (List Char)
  | 0, _ | _, [] => none
  | n + 1, c :: rest =>
    if c = quote then some ([], rest)
    else if c = '\\' then do
      let (s, rest) ← escape rest
      let (more, rest) ← quoted quote n rest
      return (s ++ more, rest)
    else if endsLine c then none
    else (quoted quote n rest).map fun (more, rest) => (c :: more, rest)

def startsName (c : Char) : Bool :=
  c = '$' || c = '_' || (Text.isWord c && !c.isDigit)

/-- The rest of a name, so many characters at most. -/
def nameRest : Nat → Reader (List Char)
  | 0, s => some ([], s)
  | _, [] => some ([], [])
  | n + 1, '\\' :: 'u' :: rest => do
    let (c, rest) ← unicodeEscape rest
    let (more, rest) ← nameRest n rest
    return (c :: more, rest)
  | n + 1, c :: rest =>
    if startsName c || Text.isWord c then
      (nameRest n rest).map fun (more, rest) => (c :: more, rest)
    else some ([], c :: rest)

def string : Reader String
  | c :: rest =>
    if c = '\x22' || c = '\'' then
      (quoted c (rest.length + 1) rest).map fun (s, rest) => (String.ofList s, rest)
    else none
  | [] => none

def key : Reader String := fun s =>
  match s with
  | '\\' :: 'u' :: _ => (nameRest s.length s).map fun (s, rest) => (String.ofList s, rest)
  | c :: _ =>
    if startsName c then (nameRest s.length s).map fun (s, rest) => (String.ofList s, rest)
    else string s
  | [] => none

def exponent (s : List Char) : List Char × List Char :=
  match s with
  | c :: rest =>
    let (mark, digits) :=
      match rest with
      | '+' :: digits => (['+'], digits)
      | '-' :: digits => (['-'], digits)
      | digits => ([], digits)
    if (c = 'e' || c = 'E') && digits.head?.any Char.isDigit then
      (c :: mark ++ digits.takeWhile Char.isDigit, digits.dropWhile Char.isDigit)
    else ([], s)
  | [] => ([], [])

/-- A decimal number with a point or an exponent, if it has one. A whole number
has 64 bits with its sign. -/
def decimal (mark : List Char) : Reader SettingValue := fun s =>
  let whole :=
    match s with
    | '0' :: _ => ['0']
    | s => s.takeWhile Char.isDigit
  let (part, rest) : List Char × List Char :=
    match s.drop whole.length with
    | '.' :: rest => ('.' :: rest.takeWhile Char.isDigit, rest.dropWhile Char.isDigit)
    | rest => ([], rest)
  let (power, rest) := exponent rest
  if whole = [] && part.length < 2 then none
  else if part = [] && power = [] then
    let n := Wide.digitsValue whole
    let value : Int := if mark = ['-'] then -n else n
    if -(Int.pow 2 63) ≤ value && value < Int.pow 2 63 then some (.integer value, rest) else none
  else
    match Wide.ofText? (mark ++ whole ++ part ++ power) with
    | some (.finite x) => some (.number (.finite x), rest)
    | _ => none

/-- A number. One in base sixteen has no sign and at most 32 bits; what is no
finite number has no plus. -/
def number : Reader SettingValue := fun s =>
  let (mark, s) : List Char × List Char :=
    match s with
    | '+' :: rest => (['+'], rest)
    | '-' :: rest => (['-'], rest)
    | rest => ([], rest)
  let hexadecimal? : Option (List Char) :=
    match s with
    | '0' :: x :: rest =>
      if (x = 'x' || x = 'X') && rest.head?.any (fun c => (hexValue? c).isSome) then some rest
      else none
    | _ => none
  match hexadecimal?, Text.afterPattern "Infinity".toList s, Text.afterPattern "NaN".toList s with
  | some digits, _, _ =>
    let count := (digits.takeWhile fun c => (hexValue? c).isSome).length
    if mark ≠ [] then none
    else
      (hexNumber count digits).bind fun (n, rest) =>
        if n < Nat.pow 2 32 then some (.integer n, rest) else none
  | none, some rest, _ =>
    if mark = ['+'] then none else some (.number (.infinite (mark = ['-'])), rest)
  | none, none, some rest => if mark = ['+'] then none else some (.number .notANumber, rest)
  | none, none, none => decimal mark s

mutual

def value : Nat → Reader SettingValue
  | 0, _ => none
  | n + 1, s =>
    match s with
    | '\x7b' :: rest => entries n [] (skip rest)
    | '[' :: rest => items n [] (skip rest)
    | s =>
      match Text.afterPattern "null".toList s, Text.afterPattern "true".toList s,
        Text.afterPattern "false".toList s with
      | some rest, _, _ => some (.nothing, rest)
      | none, some rest, _ => some (.bool true, rest)
      | none, none, some rest => some (.bool false, rest)
      | none, none, none =>
        match string s with
        | some (text, rest) => some (.text text, rest)
        | none => number s
termination_by structural n => n

/-- The entries of an object behind those read before, and the brace that closes
it. -/
def entries : Nat → Fields SettingValue → Reader SettingValue
  | 0, _, _ => none
  | n + 1, before, s =>
    match s with
    | '\x7d' :: rest => some (.table before, rest)
    | s => do
      let (name, rest) ← key s
      let rest ← Text.afterPattern [':'] (skip rest)
      let (given, rest) ← value n (skip rest)
      let after := Fields.set name given before
      match skip rest with
      | ',' :: rest => entries n after (skip rest)
      | '\x7d' :: rest => some (.table after, rest)
      | _ => none
termination_by structural n => n

/-- The items of an array behind those read before, and the bracket that closes it. -/
def items : Nat → List SettingValue → Reader SettingValue
  | 0, _, _ => none
  | n + 1, before, s =>
    match s with
    | ']' :: rest => some (.list before, rest)
    | s => do
      let (item, rest) ← value n s
      let after := before ++ [item]
      match skip rest with
      | ',' :: rest => items n after (skip rest)
      | ']' :: rest => some (.list after, rest)
      | _ => none
termination_by structural n => n

end

/-- The settings in a document; none if it is no JSON5 or no object. -/
def parse? (text : String) : Option (Fields SettingValue) := do
  let s := skip text.toList
  let (given, rest) ← value (2 * s.length + 2) s
  match given, skip rest with
  | .table entries, [] => some entries
  | _, _ => none

end SchemaLoom.Json5
