import SchemaLoom.Toml.Date
import SchemaLoom.Toml.Scalar

/-!
# TOML documents

A document is a table. A header names the table that the lines behind it belong
to; a header in double brackets adds a table to a list. No key is set twice and
no table is opened twice: a table that a header opened, or that was written in
braces, takes no more keys from elsewhere, and one that keys with points made is
opened by no header. A table whose first key is a certain one is no table but
the date in the string behind that key.

Documents are those of TOML 1.0. Only settings are read from them, and no
theorem is about the format: what a settings file says enters a run as settings.
-/

namespace SchemaLoom.Toml

/-- How a table came about: by its own header, on the way to a table of another
header, or by keys with points. This decides who may still add keys to it. -/
inductive Origin where
  | header
  | implied
  | dotted
  deriving DecidableEq, Repr

/-- A part of a document: a value, a date written out, a list, a table with its
origin, a table in braces, or a list of tables that headers in double brackets
add to. -/
inductive Node where
  | value (v : SettingValue)
  | date (s : List Char)
  | list (items : List Node)
  | braces (entries : List (String × Node))
  | table (origin : Origin) (entries : List (String × Node))
  | tables (items : List (List (String × Node)))

/-- The first key of a table that is a date. -/
def dateKey : String := "$__toml_private_datetime"

def isDate (entries : List (String × Node)) : Bool := entries.head?.any (·.1 = dateKey)

/-- The date that a table is, if it is a date. -/
def dateOf (entries : List (String × Node)) : Option SettingValue :=
  match entries with
  | (_, .value (.text s)) :: _ => (dateTimeOf s.toList).map fun t => .text (String.ofList t)
  | _ => none

mutual

/-- The value of a part; none if a table is a date that cannot be read. -/
def Node.settingValue : Node → Option SettingValue
  | .value v => some v
  | .date s => some (.text (String.ofList s))
  | .list items => (settingItems items).map .list
  | .braces entries =>
    if isDate entries then dateOf entries else (settingEntries entries).map .table
  | .table _ entries =>
    if isDate entries then dateOf entries else (settingEntries entries).map .table
  | .tables items => (settingTables items).map .list
termination_by structural node => node

def settingItems : List Node → Option (List SettingValue)
  | [] => some []
  | item :: rest => item.settingValue.bind fun v => (settingItems rest).map (v :: ·)
termination_by structural items => items

def settingEntries : List (String × Node) → Option (List (String × SettingValue))
  | [] => some []
  | (key, node) :: rest =>
    node.settingValue.bind fun v => (settingEntries rest).map ((key, v) :: ·)
termination_by structural entries => entries

def settingTables : List (List (String × Node)) → Option (List SettingValue)
  | [] => some []
  | entries :: rest =>
    (if isDate entries then dateOf entries else (settingEntries entries).map .table).bind fun v =>
      (settingTables rest).map (v :: ·)
termination_by structural items => items

end

/-- Changes the table that keys lead to, and makes the tables on the way that
are missing. A list of tables stands for its last one. With `dotted` the keys
are joined by points in front of a value: no table that a header opened is on
their way. -/
def change (dotted : Bool) (act : Origin → List (String × Node) → Option (List (String × Node)))
    (origin : Origin) : List String → List (String × Node) → Option (List (String × Node))
  | [], entries => act origin entries
  | key :: path, entries =>
    match Fields.get? key entries with
    | none =>
      let fresh := if dotted then Origin.dotted else .implied
      (change dotted act fresh path []).map fun inner =>
        Fields.set key (.table fresh inner) entries
    | some (.table found inner) =>
      if dotted && found = .header then none
      else
        (change dotted act found path inner).map fun inner =>
          Fields.set key (.table found inner) entries
    | some (.tables items) =>
      match items.getLast? with
      | none => none
      | some last =>
        (change dotted act .header path last).map fun inner =>
          Fields.set key (.tables (items.dropLast ++ [inner])) entries
    | some _ => none

/-- Sets the key at the end of keys with points, unless it is there. -/
def setNew (path : List String) (node : Node) (entries : List (String × Node)) :
    Option (List (String × Node)) :=
  match path.getLast? with
  | none => none
  | some key =>
    let act (origin : Origin) (entries : List (String × Node)) : Option (List (String × Node)) :=
      if (path.length ≠ 1 && origin ≠ .dotted) || Fields.has key entries then none
      else some (Fields.set key node entries)
    change true act .header path.dropLast entries

/-- Opens the table of a header. One that other headers implied becomes the last
of its table. -/
def openTable (path : List String) (root : List (String × Node)) : Option (List (String × Node)) :=
  match path.getLast? with
  | none => none
  | some key =>
    let act (_ : Origin) (entries : List (String × Node)) : Option (List (String × Node)) :=
      match Fields.get? key entries with
      | none => some (Fields.set key (.table .header []) entries)
      | some (.table .implied inner) =>
        some (entries.filter (·.1 ≠ key) ++ [(key, .table .header inner)])
      | some _ => none
    change false act .header path.dropLast root

/-- Adds a table to the list of a header in double brackets. -/
def addTable (path : List String) (root : List (String × Node)) : Option (List (String × Node)) :=
  match path.getLast? with
  | none => none
  | some key =>
    let act (_ : Origin) (entries : List (String × Node)) : Option (List (String × Node)) :=
      match Fields.get? key entries with
      | none => some (Fields.set key (.tables [[]]) entries)
      | some (.tables items) => some (Fields.set key (.tables (items ++ [[]])) entries)
      | some _ => none
    change false act .header path.dropLast root

/-- The items of a list and the bracket that closes it, so many at most. -/
def listItems (value : Reader Node) : Nat → Reader (List Node)
  | 0, _ => none
  | n + 1, s =>
    match skipSpace s with
    | ']' :: rest => some ([], rest)
    | s =>
      (value s).bind fun p =>
        match skipSpace p.2 with
        | ',' :: rest => (listItems value n rest).map fun q => (p.1 :: q.1, q.2)
        | ']' :: rest => some ([p.1], rest)
        | _ => none

def entry (value : Reader Node) : Reader (List String × Node) := fun s =>
  (key s).bind fun p =>
    match p.2 with
    | '=' :: rest => (value (skipBlanks rest)).map fun q => ((p.1, q.1), q.2)
    | _ => none

/-- The entries of a table in braces and the brace that closes it, so many at most. -/
def braceEntries (value : Reader Node) (entries : List (String × Node)) :
    Nat → Reader (List (String × Node))
  | 0, _ => none
  | n + 1, s =>
    (entry value s).bind fun p =>
      (setNew p.1.1 p.1.2 entries).bind fun entries =>
        match skipBlanks p.2 with
        | ',' :: rest => braceEntries value entries n rest
        | '\x7d' :: rest => some (entries, rest)
        | _ => none

def braceTable (value : Reader Node) : Reader Node := fun s =>
  match skipBlanks s with
  | '\x7d' :: rest => some (.braces [], rest)
  | s => (braceEntries value [] s.length s).map fun p => (.braces p.1, p.2)

/-- A value, with at most so many lists and tables around what is read. -/
def value : Nat → Reader Node
  | depth, s =>
    match s with
    | [] => none
    | c :: rest =>
      if c = '\x22' || c = '\x27' then
        (string s).map fun p => (.value (.text (String.ofList p.1)), p.2)
      else if c = '[' then
        match depth with
        | 0 => none
        | depth + 1 =>
          (listItems (value depth) s.length rest).map fun p => (.list p.1, p.2)
      else if c = '\x7b' then
        match depth with
        | 0 => none
        | depth + 1 => braceTable (value depth) rest
      else if startsDateTime s then (dateTime s).map fun p => (.date p.1, p.2)
      else (scalar s).map fun p => (.value p.1, p.2)

/-- How deep lists and tables in braces may be nested. -/
def maxDepth : Nat := 79

/-- A document that is being read: its root and the keys of the header that was
read last. -/
structure Draft where
  root : List (String × Node)
  path : List String

def header (draft : Draft) (s : List Char) : Option (Draft × List Char) :=
  match s with
  | '[' :: s =>
    (key s).bind fun p =>
      match p.2 with
      | ']' :: ']' :: rest =>
        (addTable p.1 draft.root).bind fun root =>
          (endOfLine rest).map fun rest => (⟨root, p.1⟩, rest)
      | _ => none
  | s =>
    (key s).bind fun p =>
      match p.2 with
      | ']' :: rest =>
        (openTable p.1 draft.root).bind fun root =>
          (endOfLine rest).map fun rest => (⟨root, p.1⟩, rest)
      | _ => none

/-- Reads a key with its value, which goes into the table of the last header. -/
def keyLine (draft : Draft) (s : List Char) : Option (Draft × List Char) :=
  (entry (value maxDepth) s).bind fun p =>
    (change false (fun _ => setNew p.1.1 p.1.2) .header draft.path draft.root).bind
      fun root => (endOfLine p.2).map fun rest => (⟨root, draft.path⟩, rest)

/-- Reads the lines of a document, so many at most. -/
def readLines (draft : Draft) : Nat → List Char → Option Draft
  | 0, _ => none
  | n + 1, s =>
    match skipSpace s with
    | [] => some draft
    | '[' :: rest => (header draft rest).bind fun p => readLines p.1 n p.2
    | s => (keyLine draft s).bind fun p => readLines p.1 n p.2

def parse? (text : String) : Option (Fields SettingValue) :=
  let s :=
    match text.toList with
    | '\uFEFF' :: s => s
    | s => s
  (readLines ⟨[], []⟩ (s.length + 1) s).bind fun draft =>
    if isDate draft.root then none else settingEntries draft.root

end SchemaLoom.Toml
