import SchemaLoom.Shell.Builtin.Variables

/-!
# Options

The commands that work on options: one switches ways for the shell to run, the
other takes options from parameters one by one.

They are `set` and `getopts` of POSIX. A way is switched by its letter or by its
name behind `-o`, and what else `set` is given becomes the parameters.
-/

namespace SchemaLoom.Shell.Builtin

open SchemaLoom.Shell.Action

/-- The arguments behind those that switch ways to run, whether two hyphens
ended the options, and whether the first of the other arguments is a script. -/
structure Switched where
  rest : List (List Char)
  closed : Bool := false
  givesScript : Bool := false

/-- Switches a way to run. To watch over jobs a shell needs a terminal, which
there is not. -/
def switchWay (on : Bool) (way : Way) : Action Unit := do
  if on && way = .monitor then complain "can't access tty; job control turned off".toList
  else modify fun shell => shell.switch way on

/-- Switches the way to run with a letter. Of the two ways to edit lines only
one goes at a time. -/
def switchOne (on : Bool) (letter : Char) : Action Unit := do
  match Way.ofLetter? letter with
  | some way =>
    if on && way = .vi then modify fun shell => shell.switch .emacs false
    if on && way = .emacs then modify fun shell => shell.switch .vi false
    switchWay on way
  | none => fail ("Illegal option -".toList ++ [letter])

def switchNamed (on : Bool) (name : List Char) : Action Unit := do
  match Way.ofName? (String.ofList name) with
  | some way => switchWay on way
  | none => fail ("Illegal option -o ".toList ++ name)

/-- Which ways to run are switched on, in a table or as the commands that switch
them. -/
def waysText (asTable : Bool) (isOn : Way → Bool) : List Char :=
  let line (way : Way) : String :=
    if asTable then
      way.name ++ String.ofList (List.replicate (16 - way.name.length) ' ') ++
        (if isOn way then "on" else "off")
    else "set " ++ (if isOn way then "-o " else "+o ") ++ way.name
  let title := if asTable then ["Current option settings"] else []
  ((title ++ Way.all.map line).flatMap fun line => line.toList ++ ['\n'])

/-- Switches ways to run by letters. An `o` takes the name of one from the other
arguments, or else writes them. Where a shell starts, all count as switched on
there, and a `c` tells that its script is an argument. Whether there was one is
given. -/
def switchLetters (starts on : Bool) :
    List Char → List (List Char) → Action (List (List Char) × Bool)
  | [], rest => return (rest, false)
  | 'o' :: letters, name :: rest => do
    switchNamed on name
    switchLetters starts on letters rest
  | 'o' :: letters, [] => do
    let shell ← get
    if starts then write 1 (waysText on fun _ => true) else print (waysText on shell.has)
    switchLetters starts on letters []
  | letter :: letters, rest => do
    if starts && letter = 'c' then
      let (rest, _) ← switchLetters starts on letters rest
      return (rest, true)
    else
      if !(starts && letter = 'l') then switchOne on letter
      switchLetters starts on letters rest

/-- Switches ways to run by the arguments in front, of which there are so many
at most. -/
def switchAll (starts : Bool) : Nat → List (List Char) → Action Switched
  | _ + 1, ['-'] :: rest => do
    if !starts then switchOne false 'x'
    return { rest }
  | _ + 1, ['-', '-'] :: rest => return { rest, closed := true }
  | n + 1, (sign :: letters) :: rest => do
    if sign = '-' || sign = '+' then
      let (rest, givesScript) ← switchLetters starts (sign = '-') letters rest
      let switched ← switchAll starts n rest
      return { switched with givesScript := givesScript || switched.givesScript }
    else return { rest := (sign :: letters) :: rest }
  | _, rest => return { rest }

/-- Switches ways to run and gives the parameters new values, or writes all
variables. -/
def setAll (args : List (List Char)) : Action Unit := do
  if args = [] then return (← listVariables "" fun _ => true)
  let switched ← switchAll false args.length args
  if switched.closed || switched.rest ≠ [] then
    modify fun shell => { shell with args := switched.rest, optionPlace := (1, none) }

/-- What the arguments of a command hold at the place of the next option: none,
an option with what follows it in its argument, or two hyphens that end the
options. The number is that of the argument behind. -/
inductive NextOption where
  | none
  | letter (c : Char) (rest : List Char) (next : Nat)
  | closed (next : Nat)

def nextOption (args : List (List Char)) (place : Nat × Option Nat) : NextOption :=
  let (number, inside) := place
  let left : List Char :=
    match inside, number with
    | some k, n + 2 => ((args[n]?).getD []).drop k
    | _, _ => []
  match left, args[number - 1]? with
  | c :: rest, _ => .letter c rest number
  | [], some ['-', '-'] => .closed (number + 1)
  | [], some ('-' :: c :: rest) => .letter c rest (number + 1)
  | [], _ => .none

/-- What a list of option letters says of one: whether it takes an argument. The
colon behind a letter says so. -/
def takesArgument? (c : Char) : List Char → Option Bool
  | [] => none
  | d :: ':' :: rest => if c = d then some true else takesArgument? c rest
  | d :: rest => if c = d then some false else takesArgument? c rest

/-- Takes the next option of the parameters or of other arguments. A colon in
front of the letters keeps it quiet. -/
def getOption (args : List (List Char)) : Action Unit := do
  match args with
  | letters :: name :: others =>
    let shell ← get
    let args := if others = [] then shell.args else others
    let quiet := letters.head? = some ':'
    let place := if args.length + 1 < shell.optionPlace.1 then (1, none) else shell.optionPlace
    let ends (c : Char) (next : Nat) (left : Option (List Char)) : Action Unit := do
      assign "OPTIND".toList (decimal next)
      if !isName name then fail (name ++ ": bad variable name".toList)
      assign name [c]
      let inside := left.map fun left => ((args[next - 2]?).getD []).length - left.length
      modify fun shell => { shell with optionPlace := (next, inside) }
    let setArgument (value : Option (List Char)) : Action Unit :=
      match value with
      | some value => assign "OPTARG".toList value
      | none => modify fun shell => shell.putVariable "OPTARG".toList none
    match nextOption args place with
    | .none =>
      ends '?' place.1 none
      setStatus 1
    | .closed next =>
      ends '?' next none
      setStatus 1
    | .letter c rest next =>
      match takesArgument? c letters with
      | none =>
        if !quiet then write 2 ("Illegal option -".toList ++ [c, '\n'])
        setArgument (if quiet then some [c] else none)
        ends '?' next (some rest)
      | some false =>
        setArgument (some [])
        ends c next (some rest)
      | some true =>
        match rest, args[next - 1]? with
        | [], none =>
          if !quiet then write 2 ("No arg for -".toList ++ [c] ++ " option\n".toList)
          setArgument (if quiet then some [c] else none)
          ends (if quiet then ':' else '?') next none
        | [], some value =>
          setArgument (some value)
          ends c (next + 1) none
        | value, _ =>
          setArgument (some value)
          ends c next none
  | _ => fail "Usage: getopts optstring var [arg...]".toList

end SchemaLoom.Shell.Builtin
