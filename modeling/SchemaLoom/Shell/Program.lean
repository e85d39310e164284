import SchemaLoom.Shell.Control
import SchemaLoom.Shell.Copy
import SchemaLoom.Shell.Echo

/-!
# Names of commands

What a name stands for where a command begins: a word of the language, a
function, a builtin command, or a program that is found by its name or by its
path.

The order of the search is that of the POSIX shell command language, and so are
the statuses 126 and 127 for what cannot be run and for what is not found.
`command`, `type` and `hash` tell about names.
-/

namespace SchemaLoom.Shell

def isPath (command : List Char) : Bool := command.contains '/'

/-- The paths where a name is looked for, by the directories that `PATH` names. -/
def Session.pathsOf (shell : Session) (name : List Char) : List (List Char) :=
  (Text.splitBy (· = ':') ((shell.value? "PATH".toList).getD [])).map fun directory =>
    if directory = [] then name else directory ++ '/' :: name

def Session.programPath? (shell : Session) (name : List Char) : Option (List Char) :=
  (shell.pathsOf name).find? fun path => isPath path && (Program.find? path).isSome

def Session.callsProgram (shell : Session) (command : List Char) : Bool :=
  if isPath command then (Program.find? command).isSome else (shell.programPath? command).isSome

def Session.remember (shell : Session) (name : List Char) : Session :=
  if shell.remembered.contains name then shell
  else { shell with remembered := shell.remembered ++ [name] }

namespace Action

/-- Says that there is no program for a command, or none that can run.
`replaces` says whether the shell was to give way to it. -/
def refuse (replaces : Bool) (command : List Char) : Action Unit := do
  let shell ← get
  let paths := if isPath command then [command] else shell.pathsOf command
  if paths.any shell.isThere then
    complain (command ++ ": Permission denied".toList)
    setStatus (if replaces || isPath command then 126 else 127)
  else
    complain (command ++ ": not found".toList)
    setStatus 127

/-- Writes what a name stands for: in a sentence, or what calls it. -/
def describe (inWords : Bool) (name : List Char) : Action Unit := do
  let shell ← get
  let say (sentence : String) : Action Unit :=
    Builtin.print ((if inWords then name ++ (' ' :: sentence.toList) else name) ++ ['\n'])
  if keywords.contains (String.ofList name) then say "is a shell keyword"
  else if let some value := shell.aliases.lookup name then
    if inWords then say ("is an alias for " ++ String.ofList value)
    else Builtin.print ("alias ".toList ++ Builtin.aliasText name value ++ ['\n'])
  else if (shell.functions.lookup name).isSome then say "is a shell function"
  else if Builtin.isName name then
    if specialBuiltins.contains (String.ofList name) then say "is a special shell builtin"
    else say "is a shell builtin"
  else
    let path : Option (List Char) :=
      if isPath name then
        if (Program.find? name).isSome || shell.isThere name then some name else none
      else shell.programPath? name
    match path with
    | some path =>
      let how := if shell.remembered.contains name then " is a tracked alias for " else " is "
      Builtin.print ((if inWords then name ++ how.toList else []) ++ path ++ ['\n'])
    | none =>
      if inWords then Builtin.print (name ++ ": not found\n".toList)
      setStatus 127

/-- Finds programs by their names alone and remembers them, or writes the paths
of those that are remembered, or forgets them. -/
def rememberAll (args : List (List Char)) : Action Unit := do
  let (letters, names) ← Builtin.takeOptions ['r'] args
  let shell ← get
  if letters ≠ [] then set { shell with remembered := [] }
  else if names = [] then
    for name in Builtin.inTable 31 id shell.remembered do
      Builtin.print (((shell.programPath? name).getD name) ++ ['\n'])
  else
    for name in names do
      if (shell.programPath? name).isSome && !Builtin.isName name then modify (·.remember name)
      else if !isPath name && !Builtin.isName name && (shell.functions.lookup name).isNone then
        complain (name ++ ": not found".toList)
        setStatus 1

def describeAll (names : List (List Char)) : Action Unit := do
  let mut worst := 0
  for name in names do
    setStatus 0
    describe true name
    worst := max worst (← get).status
  setStatus worst

def describeOne (args : List (List Char)) : Action Unit := do
  let (letters, names) ← Builtin.takeOptions ['p', 'v', 'V'] args
  setStatus 0
  if let some letter := (letters.filter (· ≠ 'p')).getLast? then
    if let name :: _ := names then describe (letter = 'V') name

end Action

/-- The words behind `command` and its options, if it runs a command. -/
def behindCommand : List (List Char) → Option (List (List Char))
  | [] | [['-', '-']] => none
  | ['-', '-'] :: words => some words
  | ['-'] :: words => some (['-'] :: words)
  | ('-' :: letters) :: words => if letters.all (· = 'p') then behindCommand words else none
  | words => some words

/-- The words of a command without any `command` in front, of which there are so
many at most, and whether there was one. -/
def withoutCommand (isFunction : Bool) : Nat → List (List Char) → List (List Char) × Bool
  | n + 1, name :: words =>
    if name = "command".toList && !isFunction then
      match behindCommand words with
      | some rest => ((withoutCommand false n rest).1, true)
      | none => (name :: words, false)
    else (name :: words, false)
  | _, words => (words, false)

end SchemaLoom.Shell
