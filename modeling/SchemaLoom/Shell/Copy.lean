import SchemaLoom.Shell.Copy.Quoted
import SchemaLoom.Shell.Descriptor

/-!
# Copying files

The program that writes files one after the other. It may number the lines,
leave out blank ones and show characters that cannot be seen; lines are counted
on from file to file. A file that cannot be read is passed over and named in a
complaint.

It is the `cat` utility of POSIX, with the options for numbers and for invisible
characters that it commonly has besides `-u`.
-/

namespace SchemaLoom.Shell.Copy

inductive Numbering where
  | none
  | nonblank
  | all
  deriving DecidableEq, Repr

/-- How files are copied: which lines get a number, whether only the first of
several blank lines is written, and whether the ends of lines, tabs and other
characters that cannot be seen are shown. -/
structure Style where
  numbering : Numbering := .none
  dropsBlanks : Bool := false
  showsEnds : Bool := false
  showsTabs : Bool := false
  showsHidden : Bool := false
  deriving DecidableEq, Repr

def Style.with? (style : Style) (letter : Char) : Option Style :=
  match letter with
  | 'n' =>
    some { style with
      numbering := if style.numbering = .nonblank then .nonblank else .all }
  | 'b' => some { style with numbering := .nonblank }
  | 's' => some { style with dropsBlanks := true }
  | 'E' => some { style with showsEnds := true }
  | 'T' => some { style with showsTabs := true }
  | 'v' => some { style with showsHidden := true }
  | 'e' => some { style with showsEnds := true, showsHidden := true }
  | 't' => some { style with showsTabs := true, showsHidden := true }
  | 'A' => some { style with showsEnds := true, showsTabs := true, showsHidden := true }
  | 'u' => some style
  | _ => .none

def longNames : List (String × Char) :=
  [("number-nonblank", 'b'), ("number", 'n'), ("squeeze-blank", 's'), ("show-nonprinting", 'v'),
    ("show-ends", 'E'), ("show-tabs", 'T'), ("show-all", 'A')]

/-- The letter of the option with a long name, which may be cut where it stays
clear. -/
def letterOf? (text : List Char) : Except String Char :=
  let name := String.ofList (text.takeWhile (· ≠ '='))
  let fitting := longNames.filter fun option => name.toList.isPrefixOf option.1.toList
  let found := (longNames.lookup name).or
    (match fitting with
    | [option] => some option.2
    | _ => .none)
  match found with
  | some letter =>
    if text.contains '=' then
      let full := ((longNames.find? (·.2 = letter)).map (·.1)).getD name
      .error ("option '--" ++ full ++ "' doesn't allow an argument")
    else .ok letter
  | .none =>
    if fitting = [] then .error ("unrecognized option '--" ++ String.ofList text ++ "'")
    else
      .error ("option '--" ++ String.ofList text ++ "' is ambiguous; possibilities:" ++
        String.join (fitting.map fun option => " '--" ++ option.1 ++ "'"))

/-- The style and the files that arguments ask for. Options may stand behind
files; two hyphens end them. -/
def readArguments (style : Style) : List (List Char) → Except String (Style × List (List Char))
  | [] => .ok (style, [])
  | ['-', '-'] :: rest => .ok (style, rest)
  | ('-' :: '-' :: name) :: rest =>
    match letterOf? name with
    | .ok letter => readArguments ((style.with? letter).getD style) rest
    | .error fault => .error fault
  | ('-' :: c :: letters) :: rest =>
    let step (style : Style) (letter : Char) : Except String Style :=
      match style.with? letter with
      | some style => .ok style
      | .none => .error ("invalid option -- '" ++ String.singleton letter ++ "'")
    match (c :: letters).foldlM step style with
    | .ok style => readArguments style rest
    | .error fault => .error fault
  | name :: rest =>
    (readArguments style rest).map fun (style, names) => (style, name :: names)

/-- A character that can be seen for one that cannot. -/
def visible (style : Style) (c : Char) : List Char :=
  let low (n : Nat) : List Char :=
    if n < 32 then ['^', Char.ofNat (n + 64)] else if n = 127 then ['^', '?'] else [Char.ofNat n]
  if c = '\t' then if style.showsTabs then ['^', 'I'] else [c]
  else if !style.showsHidden then [c]
  else if c.toNat < 128 then low c.toNat
  else ['M', '-'] ++ low (c.toNat - 128)

/-- How far the lines are counted: the last number, whether a line begins, and
whether the last line was blank. -/
structure Count where
  number : Nat := 0
  atStart : Bool := true
  afterBlank : Bool := false

def Count.next (count : Count) : List Char × Count :=
  let digits := decimal (count.number + 1)
  (List.replicate (6 - digits.length) ' ' ++ digits ++ ['\t'],
    { count with number := count.number + 1 })

/-- What is written for characters in a style, and the count behind them. -/
def render (style : Style) (count : Count) : List Char → List Char × Count
  | [] => ([], count)
  | '\n' :: rest =>
    let isBlank := count.atStart
    if isBlank && style.dropsBlanks && count.afterBlank then render style count rest
    else
      let (start, count) :=
        if isBlank && style.numbering = .all then count.next else ([], count)
      let (more, count) := render style { count with atStart := true, afterBlank := isBlank } rest
      (start ++ (if style.showsEnds then ['$', '\n'] else ['\n']) ++ more, count)
  | c :: rest =>
    let (start, count) :=
      if count.atStart && style.numbering ≠ .none then count.next else ([], count)
    let shown :=
      if c = '\x0d' && style.showsEnds && rest.head? = some '\n' then ['^', 'M']
      else visible style c
    let (more, count) := render style { count with atStart := false, afterBlank := false } rest
    (start ++ shown ++ more, count)

open SchemaLoom.Shell.Action

/-- Says what is wrong, under the name that the program was called by. -/
def report (program message : List Char) : Action Unit := do
  write 2 (program ++ ": ".toList ++ message ++ ['\n'])
  setStatus 1

def reason : OpenFault → String
  | .throughFile => "Not a directory"
  | fault => fault.message "No such file or directory"

/-- Whether a stream still has something to give of the file that another one
leads to. -/
def feedsItself (world : World) (source target : Nat) : Bool :=
  match world.streams[source]?, world.streams[target]? with
  | some (.file place position _), some (.file other _ _) =>
    place = other && position < (world.contentAt place).length
  | _, _ => false

/-- Copies what a stream still gives to descriptor one: the count behind it,
unless nothing can be written. -/
def copyStream (program : List Char) (style : Style) (count : Count) (name : List Char)
    (source target : Nat) : Action (Option Count) := do
  let shell ← get
  if feedsItself shell.world source target then
    report program (name ++ ": input file is output file".toList)
    return count
  match shell.world.streams[source]? with
  | some .directory =>
    report program (name ++ ": Is a directory".toList)
    return count
  | some stream =>
    if !stream.reads then
      report program (name ++ ": Bad file descriptor".toList)
      return count
    let s := shell.world.left source
    let (text, count) := if style = {} then (s, count) else render style count s
    match shell.writeFault? 1 text with
    | .none =>
      set { shell with world := (shell.world.advance source s.length).write target text }
      return count
    | some fault =>
      set { shell with world := shell.world.advance source s.length }
      report program ("write error: ".toList ++ fault.message.toList)
      return .none
  | .none =>
    report program (name ++ ": Bad file descriptor".toList)
    return count

/-- Copies files, of which a hyphen is the input. Where nothing can be written
the rest is left. -/
def copyAll (program : List Char) (style : Style) (target : Nat) :
    Count → List (List Char) → Action Unit
  | _, [] => return
  | count, name :: rest => do
    let copied ←
      if name = ['-'] then
        match (← get).stream? 0 with
        | some source => copyStream program style count name source target
        | .none => do
          report program "-: Bad file descriptor".toList
          pure (some count)
      else
        match ← openFile .read name with
        | .ok source => copyStream program style count (quoted name) source target
        | .error fault => do
          report program (quoted name ++ ": ".toList ++ (reason fault).toList)
          pure (some count)
    if let some count := copied then copyAll program style target count rest

/-- Copies the files that the arguments name, or the input if they name none. -/
def run (program : List Char) (args : List (List Char)) : Action Unit := do
  setStatus 0
  match readArguments {} args with
  | .error fault =>
    report program (fault.toList ++ "\nTry '".toList ++ program ++
      " --help' for more information.".toList)
  | .ok (style, names) =>
    let names := if names = [] then [['-']] else names
    match (← get).stream? 1 with
    | some target =>
      copyAll program style target {} names
      if names.contains ['-'] && ((← get).stream? 0).isNone then
        report program "closing standard input: Bad file descriptor".toList
    | .none => report program "standard output: Bad file descriptor".toList

end SchemaLoom.Shell.Copy
