import SchemaLoom.CommandLine.Arguments

/-!
# Commands

There are two commands. One merges schemas and writes what is asked for; the
other prints the members of a declaration file. Their options are read into
structures.
-/

namespace SchemaLoom.CommandLine

/-- What to generate. Paths that are given take the place of those in the
settings; shared objects and arrays may be merged too, the compiler may be a
command with its arguments, and the run may stop once the settings are known. -/
structure Generate where
  config : Option String
  inputSchema : Option String
  inputOverlay : Option String
  inputOutput : Option String
  inputTypesOut : Option String
  defaultsOut : Option String
  datasetSchema : Option String
  datasetOverlay : Option String
  datasetEnvelope : Option String
  datasetTypesOut : Option String
  deepMerge : Bool
  compilerCommand : Option String
  noOp : Bool
  deriving DecidableEq, Repr

/-- Which members to print: those of the named interface in a declaration file.
They may be written to a file instead. -/
structure ShowMembers where
  types : String
  typeName : String
  out : Option String
  deriving DecidableEq, Repr

inductive Command where
  | generate (options : Generate)
  | showMembers (options : ShowMembers)
  deriving DecidableEq, Repr

def generateOptions : List Known := [
  ⟨"config", some 'c', .path⟩,
  ⟨"input-schema", none, .path⟩,
  ⟨"add-input-schema", none, .path⟩,
  ⟨"output-input-schema", none, .path⟩,
  ⟨"input-types-out", none, .path⟩,
  ⟨"defaults-out", none, .path⟩,
  ⟨"dataset-schema", none, .path⟩,
  ⟨"add-dataset-schema", none, .path⟩,
  ⟨"dataset-envelope", none, .path⟩,
  ⟨"dataset-types-out", none, .path⟩,
  ⟨"deep-merge", none, .nothing⟩,
  ⟨"compiler-command", none, .text⟩,
  ⟨"no-op", none, .nothing⟩]

def showMembersOptions : List Known := [
  ⟨"types", none, .path⟩,
  ⟨"type-name", none, .text⟩,
  ⟨"out", some 'o', .path⟩]

def Generate.ofValues (values : Fields String) : Generate :=
  { config := values.get? "config"
    inputSchema := values.get? "input-schema"
    inputOverlay := values.get? "add-input-schema"
    inputOutput := values.get? "output-input-schema"
    inputTypesOut := values.get? "input-types-out"
    defaultsOut := values.get? "defaults-out"
    datasetSchema := values.get? "dataset-schema"
    datasetOverlay := values.get? "add-dataset-schema"
    datasetEnvelope := values.get? "dataset-envelope"
    datasetTypesOut := values.get? "dataset-types-out"
    deepMerge := values.has "deep-merge"
    compilerCommand := values.get? "compiler-command"
    noOp := values.has "no-op" }

/-- The second command with the values given; the declaration file must be among
them. -/
def ShowMembers.ofValues (values : Fields String) : Except Refusal ShowMembers :=
  match values.get? "types" with
  | some types => .ok ⟨types, (values.get? "type-name").getD "Input", values.get? "out"⟩
  | none => .error .missingOption

def commandWords : List String := ["generate", "params", "help"]

/-- Help with commands named by words: at most one, and it must be known. -/
def helpWith : List String → Refusal
  | [] => .help
  | [word] => if commandWords.contains word then .help else .unknownCommand
  | _ :: _ :: _ => .unknownCommand

def readOutside (s : List Char) : Refusal :=
  match s with
  | '-' :: s =>
    match cutAtEquals s with
    | ("help", none) => .help
    | ("version", none) => .version
    | ("help", some _) | ("version", some _) => .unexpectedValue
    | _ => .unknownArgument
  | 'h' :: _ => .help
  | 'V' :: _ => .version
  | _ => .unknownArgument

/-- The command that arguments ask for. -/
def read : List String → Except Refusal Command
  | [] => .error .nothingAsked
  | ["--"] => .error .nothingAsked
  | "--" :: word :: _ =>
    .error (if commandWords.contains word then .unknownArgument else .unknownCommand)
  | "generate" :: rest =>
    (readArguments generateOptions {} rest).map fun values => .generate (.ofValues values)
  | "params" :: rest =>
    match readArguments showMembersOptions {} rest with
    | .error refusal => .error refusal
    | .ok values => (ShowMembers.ofValues values).map .showMembers
  | "help" :: rest => .error (helpWith rest)
  | argument :: _ =>
    match argument.toList with
    | '-' :: c :: s => .error (readOutside (c :: s))
    | _ => .error .unknownCommand

/-- What is printed in place of a result. -/
def Refusal.message : Refusal → String
  | .unknownArgument => "error: there is an argument that the command does not know"
  | .unknownCommand => "error: there is no such command"
  | .badValue => "error: an option has no value, or an empty one"
  | .unexpectedValue => "error: a flag has a value"
  | .repeated => "error: an option is given more than once"
  | .missingOption => "error: an option that must be given is missing"
  | .version => "schema-synth 0.1.0"
  | .help | .nothingAsked => "Usage: schema-synth <generate|params|help> [options]"

/-- The status that a refusal ends with: asking for help or the version is no
error. -/
def Refusal.status : Refusal → Nat
  | .help | .version => 0
  | _ => 2

end SchemaLoom.CommandLine
