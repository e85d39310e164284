import SchemaLoom.Shell.Builtin

/-!
# Control

How actions are put together to loops, pipelines, functions and shells of their
own, and what the end of a shell does. What they are made of is given: nothing
here knows how a command runs.

The rules are those of compound commands and of the shell execution environment
in the POSIX shell command language. The commands of a pipeline run one after
the other, each in a shell of its own, with what the one before has written for
its input.
-/

namespace SchemaLoom.Shell.Action

/-- What goes wrong where commands nest too deep or loops go on for too long. -/
def giveUp {α : Type} : Action α := fail "Too deep or too long".toList

/-- What follows a command: whether something depends on its status, so that its
failure does not end the shell, and whether the shell ends with it. -/
structure Outlook where
  tested : Bool := false
  isLast : Bool := false

def Outlook.goingOn (outlook : Outlook) : Outlook := { outlook with isLast := false }

def Outlook.ending (outlook : Outlook) : Outlook := { outlook with isLast := true }

/-- Ends the shell after a failure, where that ends it and nothing depends on
the status. -/
def endOnFailure (outlook : Outlook) : Action Unit := do
  let shell ← get
  if shell.has .errexit && !outlook.tested && shell.status ≠ 0 then throw .shell

/-- Goes on behind a process, which a signal may have ended. Where the shell
ends with it and has no traps they are the same process. -/
def goOnBehind (outlook : Outlook) (ended : Option Nat) : Action Unit := do
  if let some signal := ended then
    if outlook.isLast && (← get).traps.all (·.2 = []) then throw (.killed signal)
    else
      announce signal
      setStatus (statusOfSignal signal)

/-- Runs a round of a loop: whether the loop goes on. -/
def round (action : Action Bool) : Action Bool := do
  match ← attempt action with
  | .ok goesOn => return goesOn
  | .error (.loops (n + 2) again) => throw (.loops (n + 1) again)
  | .error (.loops _ again) => return again
  | .error leave => throw leave

/-- Runs a body as long as a test holds, so many times at most. The status is
that of the last time, for which `last` stands first. -/
def repeatWhile (test : Action Bool) (body : Action Unit) : Nat → Nat → Action Unit
  | 0, _ => giveUp
  | n + 1, last => do
    let goesOn ← round do
      if ← test then
        body
        return true
      else
        setStatus last
        return false
    if goesOn then repeatWhile test body n (← get).status

/-- Runs a body with each text for the value of a variable. -/
def repeatFor (name : List Char) (body : Action Unit) : List (List Char) → Action Unit
  | [] => return
  | text :: rest => do
    assign name text
    let goesOn ← round do
      body
      return true
    if goesOn then repeatFor name body rest

def inLoop (action : Action Unit) : Action Unit :=
  restoring (fun before shell => { shell with loops := before.loops }) do
    modify fun shell => { shell with loops := shell.loops + 1 }
    action

def withoutLocals (shell : Session) : Session :=
  match shell.frames with
  | [] => shell
  | frame :: _ =>
    { frame.bindings.foldl (fun shell (name, outer) => shell.putVariable name outer) shell with
      ways := frame.ways.getD shell.ways }

/-- Runs an action and ends with it where it returns. -/
def untilReturn (action : Action Unit) : Action Unit := do
  match ← attempt action with
  | .error .function | .ok () => return
  | .error leave => throw leave

def mostFunctions : Nat := 1000

def asFunction (args : List (List Char)) (body : Action Unit) : Action Unit := do
  if mostFunctions ≤ (← get).frames.length then
    fail ("Maximum function recursion depth (".toList ++ decimal mostFunctions ++
      ") reached".toList)
  untilReturn <|
    restoring
      (fun before shell =>
        { withoutLocals shell with
          args := before.args
          loops := before.loops
          frames := before.frames
          optionPlace := before.optionPlace })
      do
        modify fun shell =>
          { shell with args, loops := 0, frames := {} :: shell.frames, optionPlace := (1, none) }
        body

/-- Gives variables values one after the other, and changes each behind that.
The assignments are given as they were made. -/
def assignAll (change : Variable → Variable) :
    List (List Char × Action (List Char)) → Action (List (List Char))
  | [] => return []
  | (name, value) :: rest => do
    let value ← value
    assign name value
    modify fun shell => shell.putVariable name (some (change (shell.named name)))
    return (name ++ '=' :: value) :: (← assignAll change rest)

/-- Takes the values that variables with the names have back after an action. -/
def restoringVariables (names : List (List Char)) : Action Unit → Action Unit :=
  restoring fun before shell =>
    names.foldl (fun shell name => shell.putVariable name (before.bindings.lookup name)) shell

def runPending (runText : List Char → Action Unit) : Action Unit := do
  for signal in (← get).pending do
    let shell ← get
    set { shell with
      pending := shell.pending.drop 1, trapped := shell.trapped.or (some shell.status) }
    runText ((shell.traps.lookup signal).getD [])
    modify fun after => { after with status := shell.status, trapped := shell.trapped }

/-- Runs an action to the end of the shell, which may have a trap of its own. -/
def toEnd (runText : List Char → Action Unit) (action : Action Unit) : Action Unit := do
  if let .error (.killed signal) ← attempt action then throw (.killed signal)
  let shell ← get
  if let some text := shell.traps.lookup 0 then
    set { shell with
      traps := shell.traps.filter (·.1 ≠ 0), trapped := some shell.status }
    match ← attempt (runText text) with
    | .error .shell | .error .fault => return
    | .error (.killed signal) => throw (.killed signal)
    | _ => setStatus shell.status

/-- Runs an action to the end of a shell that was made for it, in which no traps
are set yet. -/
def asSubshell (runText : List Char → Action Unit) (action : Action Unit) : Action Unit := do
  modify fun shell =>
    { shell with
      isApart := true
      traps := shell.traps.filter (·.2 = [])
      pending := []
      jobs := [] }
  toEnd runText action

def feeding (input : Option (List Char)) (action : Action Unit) : Action Unit := do
  if let some text := input then redirectToText 0 text
  action

/-- Runs actions that each read what the one before writes. -/
def pipe (input : Option (List Char)) : List (Action Unit) → Action Unit
  | [] => return
  | [last] => awaited (feeding input last)
  | first :: rest => do
    let before ← get
    let output ← capture (feeding input first)
    setStatus before.status
    pipe (some output) rest

/-- What the text of a substitution gives way to: what it writes. -/
def substitute (action : Action Unit) : Action (List Char) := do
  let before ← get
  let written ← capture action
  modify fun shell => { shell with substituted := shell.status, status := before.status }
  return written

/-- Expands what a redirection leads to, and gives the action that leads there. -/
def prepared (substitute : Command → Action (List Char)) (redirection : Redirection Command) :
    Action (Action Unit) := do
  let descriptor := redirection.descriptor
  match redirection.target with
  | .file opening path => return redirectToFile descriptor opening (← expandText substitute path)
  | .copy other =>
    let other ← expandText substitute other
    if !isDescriptor other then failInScript "Syntax error: Bad fd number".toList
    return redirectToCopy descriptor other
  | .document place =>
    let word := ((← get).documents[place]?).getD []
    return redirectToText descriptor (← expandDocument substitute word)

/-- Runs an action behind redirections: whether it ran. Where a redirection
fails the action does not run, and there is a fault if it would be one of the
shell itself. -/
def behind (redirections : List (Action Unit)) (isFatal : Bool) (action : Action Unit) :
    Action Bool := do
  match ← attempt (redirections.forM id) with
  | .ok () =>
    action
    return true
  | .error leave => if leave = .fault && !isFatal then return false else throw leave

/-- The texts that the words of a command stand for, behind those of words
before. Where the command takes assignments, those are not cut into fields. -/
def expandWords (substitute : Command → Action (List Char))
    (takesAssignments : List (List Char) → Bool) :
    List (List Char) → List (Word Command) → Action (List (List Char))
  | texts, [] => return texts
  | texts, word :: rest => do
    let more ←
      if takesAssignments texts && (Reading.assignment? word).isSome then do
        pure [← expandDeclared substitute word]
      else expandAll substitute [word]
    expandWords substitute takesAssignments (texts ++ more) rest

/-- The command of the first case with a pattern that accepts a text. -/
def chosen (substitute : Command → Action (List Char)) (subject : List Char) :
    List (List (Word Command) × Command) → Action (Option Command)
  | [] => return none
  | (patterns, body) :: rest => do
    if ← patterns.anyM fun word => do
        return Pattern.accepts (← expandPattern substitute word) subject then
      return some body
    else chosen substitute subject rest

/-- Runs a builtin command under its name. What it has to write is written when
it ends. A fault of one that is not special only ends the command. -/
def asBuiltin (name : List Char) (isSpecial : Bool) (action : Action Unit) : Action Unit := do
  let restore (before shell : Session) : Session :=
    { shell with builtin := before.builtin, printed := before.printed }
  let result ← restoring restore do
    modify fun shell => { shell with builtin := some name, printed := [] }
    let result ← attempt action
    let shell ← get
    if (shell.writeFault? 1 shell.printed).isNone then write 1 shell.printed
    else if let .ok () := result then
      complain (name ++ ": I/O error".toList)
      setStatus (shell.status ||| 1)
    return result
  match result with
  | .ok () => return
  | .error .fault => if isSpecial then throw .fault
  | .error leave => throw leave

/-- The status that an argument gives, or else another one. -/
def statusOf (args : List (List Char)) (usual : Nat) : Action Nat :=
  match args with
  | [] => return usual
  | s :: _ => number s

def exit (args : List (List Char)) : Action Unit := do
  let shell ← get
  setStatus (← statusOf args (shell.trapped.getD shell.status))
  throw .shell

def finish (args : List (List Char)) : Action Unit := do
  setStatus (← statusOf args (← get).status)
  throw .function

def leaveLoops (again : Bool) (args : List (List Char)) : Action Unit := do
  let count ← statusOf args 1
  if count = 0 then fail ("Illegal number: ".toList ++ args.headD [])
  setStatus 0
  let loops := (← get).loops
  if loops ≠ 0 then throw (.loops (min count loops) again)

def atLine (line : Nat) : Action Unit := modify fun shell => { shell with line }

/-- What the first substitution in a text begins with, if there is one. -/
def firstSubstitution? : List Char → Option Char
  | [] => none
  | '\\' :: _ :: rest => firstSubstitution? rest
  | '$' :: '(' :: rest => if rest.head? = some '(' then firstSubstitution? rest else some '('
  | c :: rest => if c = '\x60' then some c else firstSubstitution? rest

/-- What a text is expanded to that stands for itself but for what is expanded
between double quotes. -/
def expandedText (substitute : Command → Action (List Char)) (text : List Char) :
    Action (List Char) := do
  let cursor : Cursor := { rest := text }
  match (Reading.parts .document cursor.steps [] |>.run |>.run cursor).1 with
  | .ok word => expandDocument substitute word
  | .error fault => do
    atLine 1
    fail fault.toList

/-- The prompt in front of commands that are shown. With a fault in it, it
stands for itself. Behind the end of a script the first substitution in it finds
nothing to read. -/
def prompt (substitute : Command → Action (List Char)) : Action (List Char) := do
  let shell ← get
  let text := (shell.value? "PS4".toList).getD []
  let substitution? := if shell.hasEnded then firstSubstitution? text else none
  if substitution?.isSome then set { shell with hasEnded := false }
  let action : Action (List Char) :=
    match substitution? with
    | some '(' => do
      atLine 1
      fail "Syntax error: end of file unexpected (expecting \")\")".toList
    | some _ =>
      let behind := (text.dropWhile (· ≠ '\x60')).drop 1
      expandedText substitute
        (text.takeWhile (· ≠ '\x60') ++ (behind.dropWhile (· ≠ '\x60')).drop 1)
    | none => expandedText substitute text
  let result ←
    restoring (fun before shell => { shell with isPrompting := false, line := before.line }) do
      modify fun shell => { shell with isPrompting := true }
      attempt action
  match result with
  | .ok text => return text
  | .error .fault => return text
  | .error leave => throw leave

/-- Shows a command on the stream where errors went before its redirections. -/
def trace (substitute : Command → Action (List Char)) (stream : Option Nat)
    (assigned words : List (List Char)) : Action Unit := do
  let shell ← get
  if shell.has .xtrace && !shell.isPrompting then
    let line := (← prompt substitute) ++ [' '].intercalate (assigned ++ words) ++ ['\n']
    if let some stream := stream then
      modify fun shell => { shell with world := shell.world.write stream line }

/-- The lines of a script up to the end of the one in which reading stopped. -/
def linesRead (before after : List Char) : List Char :=
  let passed := before.take (before.length - after.length)
  if passed.getLast?.all (· = '\n') then passed
  else passed ++ after.takeWhile (· ≠ '\n') ++ (after.dropWhile (· ≠ '\n')).take 1

/-- Reads and runs what a cursor still has, a line at a time and so many lines
at most. The lines of a file may be shown. `ran` tells whether a command ran
before; without one the status is zero. -/
def runLines (run : Outlook → Command → Action Unit) (outlook : Outlook) (isFile : Bool) :
    Nat → Cursor → Bool → Action Unit
  | 0, _, _ => giveUp
  | n + 1, cursor, ran => do
    let shell ← get
    let before := cursor.rest
    let (result, cursor) :=
      { cursor with documents := shell.documents, aliases := shell.aliases }.nextLine
    set { shell with
      documents := cursor.documents, lineRead := cursor.line, hasEnded := cursor.isEnded }
    if isFile && shell.has .verbose then write 2 (linesRead before cursor.rest)
    match result with
    | .error fault => failInScript fault.toList
    | .ok command =>
      let isCommand := !(command matches .nothing)
      if isCommand then run (if cursor.isEnded then outlook else outlook.goingOn) command
      let ran := ran || isCommand
      if cursor.rest = [] then
        modify fun shell => { shell with hasEnded := true }
        if !ran then setStatus 0
      else runLines run outlook isFile n cursor ran

end SchemaLoom.Shell.Action
