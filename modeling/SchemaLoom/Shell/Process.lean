import SchemaLoom.Shell.State

/-!
# Processes

A command that runs apart from its shell has a copy of it, and only the world
changes for both. Its process may end by a signal. Signals go to the shell that
a process is known by: those that it sends to itself come at once, and those
that come from elsewhere wait until what runs apart has ended.

What such a shell takes over is told by POSIX as the subshell environment. A
process that a signal ended has the status 128 and the number of the signal.
-/

namespace SchemaLoom.Shell

/-- What is said of a process that a signal ended. -/
def deathOf (signal : Nat) : Option String :=
  match signal with
  | 1 => some "Hangup"
  | 2 | 13 => none
  | 3 => some "Quit"
  | 4 => some "Illegal instruction"
  | 5 => some "Trace/breakpoint trap"
  | 6 => some "Aborted"
  | 7 => some "Bus error"
  | 8 => some "Floating point exception"
  | 9 => some "Killed"
  | 10 => some "User defined signal 1"
  | 11 => some "Segmentation fault"
  | 12 => some "User defined signal 2"
  | 14 => some "Alarm clock"
  | 15 => some "Terminated"
  | 16 => some "Stack fault"
  | 24 => some "CPU time limit exceeded"
  | 25 => some "File size limit exceeded"
  | 26 => some "Virtual timer expired"
  | 27 => some "Profiling timer expired"
  | 29 => some "I/O possible"
  | 30 => some "Power failure"
  | 31 => some "Bad system call"
  | n =>
    some (if 34 ≤ n then "Real-time signal " ++ toString (n - 34)
      else "Unknown signal " ++ toString n)

def statusOfSignal (signal : Nat) : Nat := 128 + signal

namespace Action

/-- The first number that a new job can have: that of no job, or of one that was
waited for. -/
def freeNumber (jobs : List Job) : Nat :=
  let isFree (number : Nat) : Bool := jobs.all fun job => job.number ≠ number || job.isAwaited
  ((List.range (jobs.length + 1)).map (· + 1)).find? isFree |>.getD (jobs.length + 1)

/-- The number of a new process. It needs the number of a job, which the job
that had it loses. -/
def newProcess : Action Nat :=
  modifyGet fun shell =>
    let process := shell.world.lastProcess + 1
    let number := freeNumber shell.jobs
    (process, { shell with
      world := { shell.world with lastProcess := process }
      jobs := shell.jobs.filter (·.number ≠ number) })

/-- The signals that do nothing unless there is a trap for them. -/
def isHarmless (signal : Nat) : Bool := [0, 17, 18, 19, 20, 21, 22, 23, 28].contains signal

/-- Lets a signal come. There is no trap for the one that kills. -/
def receive (signal : Nat) : Action Unit := do
  let shell ← get
  match signal, shell.traps.lookup signal with
  | 9, _ => throw (.killed 9)
  | _, some [] => return
  | _, some _ => set { shell with pending := shell.pending ++ [signal] }
  | _, none => if isHarmless signal then return else throw (.killed signal)

def receiveSent : Action Unit := do
  let shell ← get
  if !shell.isApart then
    let isOwn (sent : Nat × Nat) : Bool := sent.1 = shell.process
    let sent := shell.world.sent
    if sent.any isOwn then
      set { shell with world := { shell.world with sent := sent.filter (!isOwn ·) } }
      (sent.filter isOwn).forM fun (_, signal) => receive signal

/-- Runs an action on a copy of the shell, which shares only the world with it,
to where the action leaves the copy. Of its status eight bits come back, and the
signal that ended it if one did. -/
def apart (action : Action Unit) : Action (Option Nat) := do
  let _ ← newProcess
  let before ← get
  set { before with lineRead := 1 }
  let result ← attempt action
  let after ← get
  let ended : Option Nat :=
    match result with
    | .error (.killed signal) => some signal
    | _ => none
  let status := (ended.map statusOfSignal).getD (after.status % 256)
  set { before with world := after.world, status }
  receiveSent
  return ended

def announce (signal : Nat) : Action Unit := do
  if let some text := deathOf signal then write 2 (text.toList ++ ['\n'])

/-- Runs an action apart, and says so if a signal ended it. -/
def awaited (action : Action Unit) : Action Unit := do
  if let some signal ← apart action then announce signal

/-- What an action that runs apart writes to descriptor one. -/
def capture (action : Action Unit) : Action (List Char) := do
  let shell ← get
  let (stream, world) := shell.world.openStream (.sink [])
  set { shell with world }
  awaited do
    modify fun shell => shell.connect 1 (some stream)
    action
  return (← get).world.written stream

end Action
end SchemaLoom.Shell
