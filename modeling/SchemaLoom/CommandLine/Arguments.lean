import SchemaLoom.Json.Basic

/-!
# Arguments

A command is told what to do by options and flags, in any order. A long option
has its value behind an equals sign or in the argument that follows; a short one
may also have it right behind its letter. A value in an argument of its own is
looked at only when the next option comes, or at the end, so that an argument
that nobody knows is reported first.

What a command knows is a list of options, so every command is read by one
function. A value that was given is kept as text under the name of its option.
-/

namespace SchemaLoom.CommandLine

/-- Why no command runs: arguments that do not fit, help or the version, or
nothing that was asked for. A refusal for an option that is given again covers
flags as well. -/
inductive Refusal where
  | unknownArgument
  | unknownCommand
  | badValue
  | unexpectedValue
  | repeated
  | missingOption
  | help
  | version
  | nothingAsked
  deriving DecidableEq, Repr

inductive Takes where
  | nothing
  | text
  | path
  deriving DecidableEq, Repr

/-- An option that a command knows, by its name behind two dashes and its letter
behind one, and whether it takes nothing, any text or a path, which is not
empty. -/
structure Known where
  name : String
  letter : Option Char
  takes : Takes
  deriving DecidableEq, Repr

/-- What the arguments have said so far: the options with their values, and the
option that was read last, if its value has not been looked at yet. A flag has
an empty value. -/
structure Given where
  values : Fields String := []
  pending : Option (Known × Option String) := none
  deriving Repr

namespace Given

def accept (given : Given) (option : Known) (value : String) : Except Refusal Given :=
  if given.values.has option.name then .error .repeated
  else if option.takes = .path && value = "" then .error .badValue
  else .ok ⟨given.values.set option.name value, none⟩

/-- Looks at the value of the option that was read last. This waits until the
next argument is read, because that may be the value. -/
def settle (given : Given) : Except Refusal Given :=
  match given.pending with
  | none => .ok given
  | some (_, none) => .error .badValue
  | some (option, some value) => accept { given with pending := none } option value

def addOption (given : Given) (option : Known) (value : Option String) : Except Refusal Given :=
  match option.takes, value with
  | .nothing, some _ => .error .unexpectedValue
  | .nothing, none => given.settle.bind (·.accept option "")
  | _, some value => given.settle.bind (·.accept option value)
  | _, none => given.settle.map fun given => { given with pending := some (option, none) }

def addValue (given : Given) (value : String) : Except Refusal Given :=
  match given.pending with
  | some (option, none) => .ok { given with pending := some (option, some value) }
  | _ => .error .unknownArgument

def askHelp (given : Given) : Except Refusal Given :=
  given.settle.bind fun _ => .error .help

end Given

/-- The name of a long option and its value behind an equals sign, if there is one. -/
def cutAtEquals (s : List Char) : String × Option String :=
  match s.dropWhile (· ≠ '=') with
  | [] => (String.ofList s, none)
  | _ :: value => (String.ofList (s.takeWhile (· ≠ '=')), some (String.ofList value))

/-- The value right behind the letter of a short option, if there is one. -/
def attached : List Char → Option String
  | [] => none
  | '=' :: value => some (String.ofList value)
  | value => some (String.ofList value)

/-- Takes in one argument of a command that knows some options. -/
def addArgument (known : List Known) (given : Given) (argument : String) :
    Except Refusal Given :=
  match argument.toList with
  | '-' :: '-' :: s =>
    let (name, value) := cutAtEquals s
    if name = "help" then if value.isSome then .error .unexpectedValue else given.askHelp
    else
      match known.find? (·.name = name) with
      | some option => given.addOption option value
      | none => .error .unknownArgument
  | '-' :: letter :: s =>
    if letter = 'h' then given.askHelp
    else
      match known.find? (·.letter = some letter) with
      | some option => given.addOption option (attached s)
      | none => .error .unknownArgument
  | _ => given.addValue argument

/-- Reads the arguments of a command. Two dashes alone end the options, and
nothing may follow. -/
def readArguments (known : List Known) (given : Given) :
    List String → Except Refusal (Fields String)
  | [] => given.settle.map Given.values
  | argument :: rest =>
    if argument = "--" then
      if rest = [] then given.settle.map Given.values else .error .unknownArgument
    else
      match addArgument known given argument with
      | .error refusal => .error refusal
      | .ok given => readArguments known given rest

end SchemaLoom.CommandLine
