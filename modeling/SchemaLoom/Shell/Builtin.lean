import SchemaLoom.Shell.Builtin.Aliases
import SchemaLoom.Shell.Builtin.Input
import SchemaLoom.Shell.Builtin.Jobs
import SchemaLoom.Shell.Builtin.Options
import SchemaLoom.Shell.Builtin.Permissions
import SchemaLoom.Shell.Builtin.Signals
import SchemaLoom.Shell.Builtin.Variables
import SchemaLoom.Shell.Condition
import SchemaLoom.Shell.Format

/-!
# Builtin commands

Commands that belong to the shell and work on its state. Those that run other
commands are not among them. A command sets the status; without one that says
otherwise it is zero.

The commands are the special and the regular utilities that the POSIX shell
command language builds in, and besides `local`, `chdir` and `ulimit` as shells
commonly have them. Of `echo` POSIX leaves open what becomes of a backslash;
here it is read as an escape.
-/

namespace SchemaLoom.Shell.Builtin

open SchemaLoom.Shell.Action

def format (args : List (List Char)) : Action Unit := do
  let (_, args) ← takeOptions [] args
  match args with
  | [] => fail "usage: printf format [arg ...]".toList
  | format :: args =>
    let printed := printf format args
    for complaint in printed.complaints do
      complain complaint
      setStatus 1
    print printed.output
    if let some fault := printed.fault then fail fault

def holds (args : List (List Char)) : Action Unit := do
  let yes ← Condition.test args
  setStatus (if yes then 0 else 1)

def holdsInBrackets (args : List (List Char)) : Action Unit := do
  if args.getLast? = some [']'] then holds args.dropLast else fail "missing ]".toList

def assignExported (name : String) (value : List Char) : Action Unit := do
  assign name.toList value
  modify fun shell =>
    shell.putVariable name.toList (some { shell.named name.toList with exported := true })

/-- Makes the directory that a path leads to the working directory: whether
there is one. Unless the path is followed step by step, it is taken as it is
written. -/
def enter (bySteps : Bool) (path : List Char) : Action Bool := do
  let shell ← get
  let goal := if bySteps then path else ofText (writtenPath shell.directory (toText path))
  match shell.locate goal with
  | .ok place =>
    if shell.world.tree.isDirectory place then
      assignExported "OLDPWD" (ofText (absolutePath shell.directory))
      modify fun shell => { shell with directory := place }
      assignExported "PWD" (ofText (absolutePath place))
      return true
    else return false
  | .error _ => return false

/-- Whether a path is looked for elsewhere than from the root or from the
working directory. -/
def isLookedFor (path : List Char) : Bool :=
  !Path.isAbsolute (toText path) && !([['.'], ['.', '.']].contains (path.takeWhile (· ≠ '/')))

/-- Goes to a directory; a hyphen is the one before, and without an argument it
is one's home. -/
def goTo (args : List (List Char)) : Action Unit := do
  let (letters, args) ← takeOptions ['L', 'P'] args
  let bySteps := letters.getLast? = some 'P'
  let shell ← get
  let back := args.head? = some ['-']
  let path :=
    match args with
    | [] => (shell.value? "HOME".toList).getD []
    | path :: _ => if back then (shell.value? "OLDPWD".toList).getD [] else path
  let goal := if path = [] then ['.'] else path
  let starts := (shell.value? "CDPATH".toList).map fun starts =>
    ((toText starts).splitOn ":").map fun start =>
      (decide (start ≠ ""), if start = "" then goal else ofText start ++ '/' :: goal)
  let isDirectory (path : List Char) : Bool :=
    match shell.locate path with
    | .ok place => shell.world.tree.isDirectory place
    | .error _ => false
  let found :=
    if isLookedFor path then (starts.getD []).find? fun (_, path) => isDirectory path else none
  let (shows, goal) := found.getD (false, goal)
  if !(← enter bySteps goal) then fail ("can't cd to ".toList ++ path)
  if shows || back then print (ofText (absolutePath (← get).directory) ++ ['\n'])

def printDirectory (args : List (List Char)) : Action Unit := do
  let _ ← takeOptions ['L', 'P'] args
  print (ofText (absolutePath (← get).directory) ++ ['\n'])

/-- Writes the time that the shell and its commands took, which is none. -/
def times (args : List (List Char)) : Action Unit := do
  let _ ← takeOptions [] args
  let line := "0m0.000000s 0m0.000000s\n".toList
  print (line ++ line)

/-- Writes a limit, of which there is none. A new one only has to be a number. -/
def limit (args : List (List Char)) : Action Unit := do
  let (_, args) ← takeOptions "HSatfdsmcnlpvwr".toList args
  match args with
  | [] => print "unlimited\n".toList
  | [arg] => if arg ≠ "unlimited".toList && !arg.all Char.isDigit then fail "bad number".toList
  | _ => fail "too many arguments".toList

def run? (name : List Char) (args : List (List Char)) : Option (Action Unit) :=
  match String.ofList name with
  | ":" | "true" => some (return)
  | "false" => some (setStatus 1)
  | "echo" => some (print (echo args))
  | "printf" => some (format args)
  | "test" => some (holds args)
  | "[" => some (holdsInBrackets args)
  | "read" => some (read args)
  | "cd" | "chdir" => some (goTo args)
  | "pwd" => some (printDirectory args)
  | "getopts" => some (getOption args)
  | "alias" => some (setAlias args)
  | "unalias" => some (unalias args)
  | "wait" => some (wait args)
  | "jobs" => some (jobs args)
  | "fg" | "bg" => some (refuseJob args)
  | "umask" => some (umask args)
  | "times" => some (times args)
  | "ulimit" => some (limit args)
  | "export" => some (declare "export" (·.exported) (fun v => { v with exported := true }) args)
  | "readonly" => some (declare "readonly" (·.readonly) (fun v => { v with readonly := true }) args)
  | "local" => some (makeLocal args)
  | "unset" => some (unset args)
  | "shift" => some (shift args)
  | "set" => some (setAll args)
  | "kill" => some (kill args)
  | "trap" => some (trap args)
  | _ => none

/-- Whether the arguments of a builtin command may be assignments, whose values
are not cut. -/
def takesAssignments (name : List Char) : Bool :=
  ["export", "readonly", "local", "alias"].contains (String.ofList name)

/-- Whether a name is that of a builtin command, one that runs others included. -/
def isName (name : List Char) : Bool :=
  (run? name []).isSome || ["command", "hash", "type"].contains (String.ofList name) ||
    specialBuiltins.contains (String.ofList name)

end SchemaLoom.Shell.Builtin
