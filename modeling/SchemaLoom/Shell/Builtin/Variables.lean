import SchemaLoom.Shell.Builtin.Arguments

/-!
# Variables

The commands that change what is known of variables and of parameters. A name
may come with a value, which is given first.

They are `export`, `readonly`, `unset` and `shift` of POSIX, with `local`
besides, which gives a variable its old value back when the function ends.
-/

namespace SchemaLoom.Shell.Builtin

open SchemaLoom.Shell.Action

def cutAssignment (s : List Char) : List Char × Option (List Char) :=
  match s.dropWhile (· ≠ '=') with
  | _ :: value => (s.takeWhile (· ≠ '='), some value)
  | [] => (s, none)

/-- Writes the variables that have a property, each behind the command that
gives it if there is one. -/
def listVariables (command : String) (has : Variable → Bool) : Action Unit := do
  let found := (← get).bindings.filter fun (_, v) => has v
  let start := if command = "" then [] else command.toList ++ [' ']
  for (name, v) in found.mergeSort fun a b => !decide (b.1 < a.1) do
    match v.value with
    | some value => print (start ++ name ++ '=' :: quotedUpTo (value.length + 1) value ++ ['\n'])
    | none => if start ≠ [] then print (start ++ name ++ ['\n'])

/-- Changes variables, which get values first where the arguments give any.
Without arguments it writes those that are so already. -/
def declare (command : String) (has : Variable → Bool) (change : Variable → Variable)
    (args : List (List Char)) : Action Unit := do
  let (letters, args) ← takeOptions ['p'] args
  if args = [] || letters ≠ [] then return (← listVariables command has)
  for arg in args do
    let (name, value) := cutAssignment arg
    if !isName name then fail (name ++ ": bad variable name".toList)
    if let some value := value then assign name value
    modify fun shell => shell.putVariable name (some (change (shell.named name)))

/-- Makes variables belong to the function that runs; a hyphen stands for the
ways to run. -/
def makeLocal (args : List (List Char)) : Action Unit := do
  if (← get).frames.isEmpty then fail "not in a function".toList
  for arg in args do
    let (name, value) := cutAssignment arg
    let keep (change : Session → Frame → Frame) : Action Unit :=
      modify fun shell =>
        match shell.frames with
        | frame :: outer => { shell with frames := change shell frame :: outer }
        | [] => shell
    if arg = ['-'] then
      keep fun shell frame => { frame with ways := frame.ways.or (some shell.ways) }
    else
      if !isName name then fail (name ++ ": bad variable name".toList)
      keep fun shell frame =>
        if (frame.bindings.lookup name).isSome then frame
        else { frame with bindings := (name, shell.bindings.lookup name) :: frame.bindings }
      if let some value := value then assign name value

def unset (args : List (List Char)) : Action Unit := do
  let (letters, names) ← takeOptions ['v', 'f'] args
  for name in names do
    if letters.getLast? = some 'f' then
      modify fun shell => { shell with functions := shell.functions.filter (·.1 ≠ name) }
    else
      if !isName name then fail (name ++ ": bad variable name".toList)
      if ((← get).named name).readonly then fail (name ++ ": is read only".toList)
      if name = "OPTIND".toList then restartOptions []
      modify fun shell => shell.putVariable name none

def shift (args : List (List Char)) : Action Unit := do
  let count ← match args with
    | [] => pure 1
    | s :: _ => number s
  let shell ← get
  if shell.args.length < count then fail "can't shift that many".toList
  set { shell with args := shell.args.drop count }

end SchemaLoom.Shell.Builtin
