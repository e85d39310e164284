import SchemaLoom.Shell.Program

/-!
# Running commands

What each command does to a shell. A simple command goes through fixed stages:
its words are expanded, then its redirections and its assignments, and then the
first word says what runs on the others. What follows a command is known to it,
since a failure or a signal may end the shell with it.

The stages are those that the POSIX shell command language gives for simple
commands. Every step into a command takes from the depth that is left, which
only runs out where a function or a script goes on calling itself.
-/

namespace SchemaLoom.Shell

open SchemaLoom.Shell.Action

def mostRounds : Nat := 1000000

/-- What a shell says to the end of its script that does not end it, until it
gives in. -/
def refusedEnd : List Char :=
  (List.replicate 50 "\nUse \"exit\" to leave shell.\n".toList).flatten

namespace Session

def usualVariables : List (List Char × Variable) :=
  [("IFS", ""), ("OPTIND", ""), ("PPID", ""), ("PS1", "# "), ("PS2", "> "), ("PS4", "+ "),
    ("PWD", "")].map
    fun (name, value) => (name.toList, { value := some value.toList })

/-- The variables of a shell that starts with the given ones and was started by
the process. Some of them it sets whatever it was given. -/
def firstVariables (given : List (List Char × Variable)) (directory : Place) (parent : Nat) :
    List (List Char × Variable) :=
  let valueOf (name : List Char) : Option (List Char) :=
    match String.ofList name with
    | "IFS" => some " \t\n".toList
    | "OPTIND" => some "1".toList
    | "PPID" => some (decimal parent)
    | "PWD" => some (ofText (absolutePath directory))
    | _ => none
  let isOwn (name : List Char) : Bool := name = "PWD".toList
  let usual := usualVariables.filter fun (name, _) => (given.lookup name).isNone
  (given ++ usual).map fun (name, v) =>
    (name, { v with value := (valueOf name).or v.value, exported := v.exported || isOwn name })

/-- A shell that a program starts from another one. Of that it has the files,
the descriptors, the variables for programs and the signals that do nothing. -/
def started (shell : Session) (name : List Char) (process : Nat) : Session :=
  { world := shell.world
    process
    parents := shell.process :: shell.parents
    name
    args := []
    descriptors := shell.descriptors
    bindings := firstVariables (shell.bindings.filter (·.2.exported)) shell.directory shell.process
    directory := shell.directory
    mask := shell.mask
    traps := shell.traps.filter (·.2 = [])
    line := 0 }

/-- The builtin command that the first of some texts calls may take assignments. -/
def takesAssignments (shell : Session) (texts : List (List Char)) : Bool :=
  let isFunction (name : List Char) : Bool := (shell.functions.lookup name).isSome
  match (withoutCommand (isFunction "command".toList) texts.length texts).1 with
  | name :: _ => Builtin.takesAssignments name && !isFunction name
  | [] => false

end Session

namespace Action

mutual

def run (outlook : Outlook) (command : Command) : Nat → Action Unit
  | 0 => giveUp
  | n + 1 => do
    if (← get).has .noexec then return
    let expand (command : Command) : Action (List Char) :=
      let within := run { isLast := true } command n
      substitute (asSubshell (fun text => runText {} false text n) within)
    let own (outlook : Outlook) (command : Command) : Action Unit :=
      asSubshell (fun text => runText {} false text n) (run outlook.ending command n)
    let inside := outlook.goingOn
    let mayEnd ←
      match command with
      | .nothing => do
        setStatus 0
        pure false
      | .simple line assignments words redirections => do
        atLine line
        simple outlook assignments words redirections n
        pure true
      | .pipeline commands => do
        pipe none (commands.map (own outlook))
        pure true
      | .invert command => do
        run { tested := true } command n
        setStatus (if (← get).status = 0 then 1 else 0)
        pure false
      | .both first second => do
        run { tested := true } first n
        if (← get).status = 0 then run outlook second n
        pure false
      | .either first second => do
        run { tested := true } first n
        if (← get).status ≠ 0 then run outlook second n
        pure false
      | .sequence first second => do
        run inside first n
        run outlook second n
        pure false
      | .background command => do
        let null ← openStream (.device true (.ofOpening .read))
        let ended ← apart do
          modify fun shell => shell.connect 0 (some null)
          own {} command
        let size :=
          match command with
          | .pipeline commands => commands.length
          | _ => 1
        Builtin.addJob size (← get).status ended
        setStatus 0
        pure true
      | .subshell line body redirections => do
        atLine line
        let redirections ← redirections.mapM (prepared expand)
        goOnBehind outlook <| ← apart do
          redirections.forM id
          own outlook body
        pure true
      | .redirected line body redirections => do
        atLine line
        let redirections ← redirections.mapM (prepared expand)
        let ran ← keepingDescriptors (behind redirections false (run inside body n))
        pure !ran
      | .conditional test yes no => do
        run { tested := true } test n
        if (← get).status = 0 then run outlook yes n else run outlook no n
        pure false
      | .loop onSuccess test body => do
        let holds : Action Bool := do
          run { tested := true } test n
          return decide ((← get).status = 0) = onSuccess
        inLoop (repeatWhile holds (run inside body n) mostRounds 0)
        pure false
      | .forEach line name words body => do
        atLine line
        match ← expandAll expand words with
        | [] => setStatus 0
        | texts => inLoop (repeatFor name (run inside body n) texts)
        pure false
      | .choice line subject cases => do
        atLine line
        let subject ← expandText expand subject
        run outlook ((← chosen expand subject cases).getD .nothing) n
        pure false
      | .define name body => do
        modify fun shell =>
          { shell with functions := (name, body) :: shell.functions.filter (·.1 ≠ name) }
        setStatus 0
        pure false
    runPending fun text => runText {} false text n
    if mayEnd then endOnFailure outlook
termination_by structural n => n

/-- Runs a command that is made of assignments, words and redirections. -/
def simple (outlook : Outlook) (assignments : List (List Char × Word Command))
    (words : List (Word Command)) (redirections : List (Redirection Command)) : Nat → Action Unit
  | 0 => giveUp
  | n + 1 => do
    let expand (command : Command) : Action (List Char) :=
      let within := run { isLast := true } command n
      substitute (asSubshell (fun text => runText {} false text n) within)
    modify fun shell => { shell with substituted := 0 }
    let before ← get
    let isFunction (name : List Char) : Bool := (before.functions.lookup name).isSome
    let texts ← expandWords expand before.takesAssignments [] words
    let (called, skipsFunctions) :=
      withoutCommand (isFunction "command".toList) texts.length texts
    let name := called.headD []
    let isSpecial := !skipsFunctions && specialBuiltins.contains (String.ofList name)
    let replaces := name = "exec".toList
    let redirections ← redirections.mapM (prepared expand)
    let values := assignments.map fun (name, word) => (name, expandAssigned expand word)
    let names := assignments.map (·.1)
    let action : Action Bool :=
      behind redirections isSpecial do
        let isPassedOn := !(texts = [] || isSpecial)
        let change (v : Variable) : Variable :=
          { v with exported := v.exported || isPassedOn || (replaces && called.length > 1) }
        let go : Action Unit := do
          let assigned ← assignAll change values
          trace expand (before.stream? 2) assigned texts
          invoke outlook called skipsFunctions isSpecial n
        if isPassedOn then restoringVariables names go else go
        if texts = [] then setStatus (← get).substituted
    let _ ← if replaces then action else keepingDescriptors action
termination_by structural n => n

/-- Runs what the first of some texts stands for on the others. -/
def invoke (outlook : Outlook) (texts : List (List Char)) (skipsFunctions isSpecial : Bool) :
    Nat → Action Unit
  | 0 => giveUp
  | n + 1 => do
    match texts with
    | [] => return
    | name :: args =>
      let functions := (← get).functions
      let body := if skipsFunctions then none else functions.lookup name
      match body, String.ofList name with
      | some body, _ => asFunction args (run outlook.goingOn body n)
      | none, "eval" =>
        asBuiltin name isSpecial (runText outlook.goingOn false ([' '].intercalate args) n)
      | none, "." => asBuiltin name isSpecial (runFile args n)
      | none, "exec" =>
        asBuiltin name isSpecial do
          match args with
          | [] => setStatus 0
          | name :: args =>
            if (← get).callsProgram name then
              if let some signal ← call name args n then throw (.killed signal)
              modify fun shell => { shell with traps := [] }
            else refuse true name
            throw .shell
      | none, "exit" => asBuiltin name isSpecial (exit args)
      | none, "return" => asBuiltin name isSpecial (finish args)
      | none, "break" => asBuiltin name isSpecial (leaveLoops false args)
      | none, "continue" => asBuiltin name isSpecial (leaveLoops true args)
      | none, "hash" =>
        asBuiltin name isSpecial do
          setStatus 0
          rememberAll args
      | none, "type" => asBuiltin name isSpecial (describeAll args)
      | none, "command" => asBuiltin name isSpecial (describeOne args)
      | none, _ =>
        match Builtin.run? name args with
        | some action =>
          asBuiltin name isSpecial do
            setStatus 0
            action
        | none =>
          if (← get).callsProgram name then
            if !isPath name then modify (·.remember name)
            goOnBehind outlook (← call name args n)
          else refuse false name
termination_by structural n => n

/-- Runs a program. Gives the signal that ended it, if one did. -/
def call (name : List Char) (args : List (List Char)) : Nat → Action (Option Nat)
  | 0 => giveUp
  | n + 1 => do
    let process ← newProcess
    match Program.find? name with
    | some .copy =>
      Copy.run name args
      return none
    | some .echo =>
      Echo.run name args
      return none
    | some (.constant status) =>
      setStatus status
      return none
    | some .shell =>
      apart do
        modify fun shell => shell.started name process
        toEnd (fun text => runText {} false text n) (start args n)
    | none =>
      refuse false name
      return none
termination_by structural n => n

/-- Runs a shell that has just been started on the arguments it was started with. -/
def start (args : List (List Char)) : Nat → Action Unit
  | 0 => giveUp
  | n + 1 => do
    let switched ← Builtin.switchAll true args.length args
    let shell ← get
    let begin (name : List Char) (args : List (List Char)) (text : Action (List Char))
        (isFile : Bool) : Action Unit := do
      modify fun shell => { shell with name, args, line := 1 }
      runText { isLast := !isFile } isFile (← text) n
      if isFile && (← get).has .ignoreeof then write 2 refusedEnd
    let readInput (args : List (List Char)) : Action Unit := do
      let input : Action (List Char) := do
        modify fun shell => shell.switch .stdin true
        readAll 0
      begin shell.name args input true
    match switched.givesScript, switched.rest with
    | true, [] => fail "-c requires an argument".toList
    | true, text :: others => do
      let name := others.headD shell.name
      begin name others.tail (pure text) false
      if (← get).has .stdin then
        begin name others.tail (readAll 0) true
    | false, [] => readInput []
    | false, path :: args =>
      if shell.has .stdin then readInput (path :: args)
      else
        match ← openFile .read path with
        | .ok stream => begin path args (return (← get).world.left stream) true
        | .error fault =>
          fail ("cannot open ".toList ++ path ++ ": ".toList ++
            (fault.message "No such file").toList)
termination_by structural n => n

/-- Runs the script in a file within the shell. A file that is named without a
path is looked for among the programs, where there are no scripts. -/
def runFile (args : List (List Char)) : Nat → Action Unit
  | 0 => giveUp
  | n + 1 => do
    let (_, args) ← Builtin.takeOptions [] args
    match args with
    | [] => setStatus 0
    | path :: _ =>
      if !isPath path then fail (path ++ ": not found".toList)
      match ← openFile .read path with
      | .ok stream =>
        modify fun shell => { shell with builtin := some path }
        let text := (← get).world.left stream
        untilReturn (runText {} true text n)
      | .error fault =>
        fail ("cannot open ".toList ++ path ++ ": ".toList ++
          (fault.message "No such file").toList)
termination_by structural n => n

/-- Runs the commands that a text is made of, which may be that of a file. -/
def runText (outlook : Outlook) (isFile : Bool) (text : List Char) : Nat → Action Unit
  | 0 => giveUp
  | n + 1 =>
    let run (outlook : Outlook) (command : Command) : Action Unit := run outlook command n
    restoring (fun before shell => { shell with lineRead := before.lineRead }) <|
      runLines run outlook isFile (text.length + 1) { rest := text } false
termination_by structural n => n

end

end Action

def depth : Nat := 20000

/-- What a program leaves: how it ended, by a status or by a signal, what it
wrote to descriptors one and two, what it left unread of its input, and the
files. -/
structure Outcome where
  ended : Except Nat Nat
  output : List Char
  errors : List Char
  unread : List Char
  tree : FileTree

def usualEnvironment : List (List Char × List Char) :=
  [("PATH", "/usr/local/sbin:/usr/local/bin:/usr/sbin:/usr/bin:/sbin:/bin"), ("HOME", "/root")].map
    fun (name, value) => (name.toList, value.toList)

/-- Runs a program by name among the files of a tree, with variables for it to see. -/
def call? (tree : FileTree) (environment : List (List Char × List Char)) (name : List Char)
    (args : List (List Char)) (input : List Char) : Option Outcome :=
  if (Program.find? name).isNone then none
  else
    let shell : Session :=
      { world := { tree, streams := [.source input, .sink [], .sink []] }
        name
        args := []
        descriptors := [(0, 0), (1, 1), (2, 2)]
        bindings := (usualEnvironment ++ environment).map fun (name, value) =>
          (name, { value := some value, exported := true }) }
    let (result, after) := ExceptT.run (Action.call name args depth) shell
    let world := after.world
    some
      { ended :=
          match result with
          | .ok (some signal) => .error signal
          | _ => .ok (after.status % 256)
        output := world.written 1
        errors := world.written 2
        unread := world.left 0
        tree := world.tree }

end SchemaLoom.Shell
