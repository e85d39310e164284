import SchemaLoom.Shell.Builtin.Arguments
import SchemaLoom.Shell.Process

/-!
# Jobs

A command in the background runs at once and to its end, so that waiting only
looks up its status. A job is known by its number until it is listed, or until
another one needs the number and the shell has waited for it.

The commands are `jobs`, `wait`, `fg` and `bg` of POSIX in a shell without job
control, so the last two always refuse. Nothing here runs while something else
does: of the orders that POSIX allows, the one without interleaving is taken.
-/

namespace SchemaLoom.Shell.Builtin

open SchemaLoom.Shell.Action

/-- Notes a command of so many processes that was put into the background, and
how it ended. -/
def addJob (size status : Nat) (ended : Option Nat) : Action Unit := do
  let process ← newProcess
  modify fun shell =>
    let job : Job := { number := freeNumber shell.jobs, process, size, status, ended }
    { shell with jobs := job :: shell.jobs, lastProcess := some process }

/-- The job that a name with a per cent sign stands for. -/
def namedJob (name : List Char) : Action Job := do
  let jobs := (← get).jobs
  let missing := "No such job: ".toList ++ name
  let found : Except (List Char) Job :=
    match name with
    | ['%'] | ['%', '%'] | ['%', '+'] => jobs[0]?.elim (.error "No current job".toList) .ok
    | ['%', '-'] => jobs[1]?.elim (.error "No previous job".toList) .ok
    -- the text of every job is empty
    | ['%', '?'] =>
      match jobs with
      | [] => .error missing
      | [job] => .ok job
      | _ => .error (name ++ ": ambiguous".toList)
    | '%' :: digits =>
      ((digits? digits).bind fun n => jobs.find? (·.number = n)).elim (.error missing) .ok
    | _ => .error missing
  match found with
  | .ok job => return job
  | .error message => fail message

def changeJob (number : Nat) (change : Job → Job) : Action Unit :=
  modify fun shell =>
    { shell with jobs := shell.jobs.map fun job => if job.number = number then change job else job }

/-- Waits for jobs, of which the last gives the status; without arguments for
all. A process that is no job counts as one that was not found. -/
def wait (args : List (List Char)) : Action Unit := do
  let (_, names) ← takeOptions [] args
  if names = [] then
    modify fun shell =>
      { shell with
        jobs := shell.jobs.map fun job => { job with isNoticed := true, isAwaited := true } }
  else setStatus 127
  for name in names do
    let job? ←
      if name.head? = some '%' then some <$> namedJob name
      else do
        let process ← number name
        pure ((← get).jobs.find? (·.process = process))
    if let some job := job? then
      if let (some signal, false) := (job.ended, job.isNoticed) then announce signal
      changeJob job.number fun job => { job with isNoticed := true, isAwaited := true }
      setStatus job.status

/-- Refuses to bring a job to the front, or to make one go on behind it: only a
shell that is talked to does that. -/
def refuseJob (args : List (List Char)) : Action Unit := do
  let (_, names) ← takeOptions [] args
  let _ ← namedJob (names.headD ['%'])
  fail ("job ".toList ++ names.headD "(null)".toList ++ " not created under job control".toList)

inductive JobListing where
  | processes
  | numbers
  | both
  deriving DecidableEq, Repr

/-- Lists a job, which is forgotten then unless only its process is asked for. -/
def listJob (listing : JobListing) (job : Job) : Action Unit := do
  if listing = .processes then print (decimal job.process ++ ['\n'])
  else
    let place := (← get).jobs.findIdx (·.number = job.number)
    let mark := if place = 0 then '+' else if place = 1 then '-' else ' '
    let how :=
      match job.ended.bind deathOf, job.status with
      | some text, _ => text.toList
      | none, 0 => "Done".toList
      | none, status => "Done(".toList ++ decimal status ++ [')']
    let start := ['['] ++ decimal job.number ++ "] ".toList ++ [mark, ' ']
    let wide (s : List Char) : List Char := s ++ List.replicate (max 1 (33 - s.length)) ' '
    let others := List.range (job.size - 1)
    if listing = .both then
      let process (place : Nat) : List Char := decimal (job.process + 1 + place - job.size) ++ [' ']
      let line (place : Nat) : List Char :=
        " |\n".toList ++ wide (List.replicate 6 ' ' ++ process (place + 1))
      print (wide (start ++ process 0 ++ how) ++ others.flatMap line ++ ['\n'])
    else print (wide (start ++ how) ++ others.flatMap (fun _ => " | ".toList) ++ ['\n'])
    modify fun shell => { shell with jobs := shell.jobs.filter (·.number ≠ job.number) }

def jobs (args : List (List Char)) : Action Unit := do
  let (letters, names) ← takeOptions ['l', 'p'] args
  let listing : JobListing :=
    match letters.getLast? with
    | some 'l' => .both
    | some _ => .processes
    | none => .numbers
  if names = [] then (← get).jobs.forM (listJob listing)
  else names.forM fun name => do listJob listing (← namedJob name)

end SchemaLoom.Shell.Builtin
