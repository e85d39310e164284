import SchemaLoom.Shell.Builtin.Jobs

/-!
# Signals

Signals have numbers and names; the end of the shell counts as number zero. The
only processes that a shell knows of are itself and its jobs.

The commands are `trap` and `kill` of POSIX. Names come without `SIG` in front,
and the numbers beyond those that POSIX fixes are the common ones.
-/

namespace SchemaLoom.Shell.Builtin

open SchemaLoom.Shell.Action

/-- The names of the signals from number one on that do not only have a number. -/
def signalNames : List String :=
  ["HUP", "INT", "QUIT", "ILL", "TRAP", "ABRT", "BUS", "FPE", "KILL", "USR1", "SEGV", "USR2",
    "PIPE", "ALRM", "TERM", "STKFLT", "CHLD", "CONT", "STOP", "TSTP", "TTIN", "TTOU", "URG", "XCPU",
    "XFSZ", "VTALRM", "PROF", "WINCH", "IO", "PWR", "SYS"]

def lastSignal : Nat := 64

/-- A signal as the shell names it. Those that are left to programs are counted
from the first and from the last of them. -/
def signalName (signal : Nat) : String :=
  if signal = 0 then "EXIT"
  else if signal = 16 then "16"
  else if signal = 34 then "RTMIN"
  else if signal = lastSignal then "RTMAX"
  else if 34 < signal && signal < 50 then "RTMIN+" ++ toString (signal - 34)
  else if 50 ≤ signal && signal < lastSignal then "RTMAX-" ++ toString (lastSignal - signal)
  else (signalNames[signal - 1]?).getD (toString signal)

/-- The number of a signal that is written as a number. -/
def signalNumber? (s : List Char) : Option Nat := (digits? s).filter (· ≤ lastSignal)

/-- The number of a signal. The end of the shell, where that counts as one, has
the number zero. -/
def signal? (endCounts : Bool) (s : List Char) : Option Nat :=
  let isNamed (signal : Nat) : Bool :=
    signalName signal = (String.ofList s).toUpper && (endCounts || signal ≠ 0)
  (signalNumber? s).or ((List.range (lastSignal + 1)).find? isNamed)

/-- Writes the names of signals: of all, or of the one with the number. A status
beyond 128 is that of something that a signal ended. -/
def listSignals (args : List (List Char)) : Action Unit := do
  match args with
  | [] =>
    print "0\n".toList
    for signal in List.range lastSignal do print ((signalName (signal + 1)).toList ++ ['\n'])
  | s :: _ =>
    let n ← number s
    let signal := if 128 < n then n - 128 else n
    if 0 < signal && signal ≤ lastSignal then print ((signalName signal).toList ++ ['\n'])
    else fail ("invalid signal number or exit status: ".toList ++ s)

/-- Sends a signal to a process, or to a group of them behind a hyphen, or to a
job. -/
def sendTo (signal : Nat) (target : List Char) : Action Unit := do
  let miss : Action Unit := do
    complain "No such process\n".toList
    setStatus 1
  match target with
  | '%' :: _ =>
    let _ ← namedJob target
    miss
  | '-' :: group =>
    let _ ← number group
    miss
  | target =>
    let process ← number target
    let shell ← get
    if process = shell.process && !shell.isApart then receive signal
    else if process = shell.process || shell.parents.contains process then
      let sent := shell.world.sent ++ [(process, signal)]
      set { shell with world := { shell.world with sent } }
    else if shell.jobs.any fun job => job.process = process && !job.isNoticed then return
    else miss

def kill (args : List (List Char)) : Action Unit := do
  let byName? : Option Nat :=
    match args with
    | ('-' :: name) :: _ => signal? false name
    | _ => none
  let (options, targets) ←
    if byName?.isSome then pure ([], args.tail) else takeOptionsOf ['l'] ['s'] args
  let mut signal? := byName?
  for (letter, name) in options do
    if letter = 's' then
      match Builtin.signal? false name with
      | some signal => signal? := some signal
      | none => fail ("invalid signal number or name: ".toList ++ name)
  let lists := options.any (·.1 = 'l')
  if lists then
    if signal?.isSome && targets ≠ [] then usage else listSignals targets
  else
    if targets = [] then usage
    targets.forM (sendTo (signal?.getD 15))
where
  usage : Action Unit :=
    fail ("Usage: kill [-s sigspec | -signum | -sigspec] [pid | job]... or\n" ++
      "kill -l [exitstatus]").toList

def listTraps : Action Unit := do
  let shell ← get
  for signal in List.range (lastSignal + 1) do
    if let some text := shell.traps.lookup signal then
      print ("trap -- ".toList ++ quotedUpTo (text.length + 1) text ++ [' '] ++
        (signalName signal).toList ++ ['\n'])

/-- Sets what runs when signals come, up to the first name that none has. -/
def setTraps (action : Option (List Char)) : List (List Char) → Action Unit
  | [] => return
  | name :: rest => do
    match signal? true name with
    | some signal =>
      modify fun shell =>
        let others := shell.traps.filter (·.1 ≠ signal)
        { shell with
          traps :=
            match action with
            | some text => (signal, text) :: others
            | none => others }
      setTraps action rest
    | none =>
      write 2 ("trap: ".toList ++ name ++ ": bad trap\n".toList)
      setStatus 1

def trap (args : List (List Char)) : Action Unit := do
  let (_, args) ← takeOptions [] args
  match args with
  | [] => listTraps
  | first :: rest =>
    if (signalNumber? first).isSome || rest = [] then setTraps none args
    else if first = ['-'] then setTraps none rest
    else setTraps (some first) rest

end SchemaLoom.Shell.Builtin
