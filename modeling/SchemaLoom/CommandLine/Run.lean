import SchemaLoom.Chain.Run
import SchemaLoom.CommandLine.Command
import SchemaLoom.Compiler.Command
import SchemaLoom.Settings.Load

/-!
# Running commands

A command works on the files of a tree and on the variables of the environment.
It leaves the files changed, and text for its output. Paths on the command line
go before those in the settings.

What files, the environment and options say is put together here, and nothing
below knows where a setting came from.
-/

namespace SchemaLoom.CommandLine

/-- Why a command failed: the settings did not load, a chain failed, the
declaration file cannot be read, or the members cannot be written. -/
inductive CommandFailure where
  | loading (failure : Failure)
  | synthesis (failure : Failure)
  | unreadable (path : String)
  | unwritable
  deriving DecidableEq, Repr

def CommandFailure.message : CommandFailure → String
  | .loading failure => "failed to load settings: " ++ failure.message
  | .synthesis failure => "schema synthesis failed: " ++ failure.message
  | .unreadable path => "failed to read " ++ path
  | .unwritable => Failure.fileAccess.message

/-- What a command leaves: the files, what it printed, and whether it failed. A
command that fails may have changed files before. -/
structure Ended where
  tree : FileTree
  output : String
  result : Except CommandFailure Unit

def Generate.applied (options : Generate) (settings : Settings) : Settings :=
  let { input, dataset, merge, codegen } := settings
  { input :=
      { schema := options.inputSchema.or input.schema
        overlay := options.inputOverlay.or input.overlay
        output := options.inputOutput.or input.output
        typesOut := options.inputTypesOut.or input.typesOut
        defaultsOut := options.defaultsOut.or input.defaultsOut }
    dataset :=
      { schema := options.datasetSchema.or dataset.schema
        overlay := options.datasetOverlay.or dataset.overlay
        envelope := options.datasetEnvelope.or dataset.envelope
        typesOut := options.datasetTypesOut.or dataset.typesOut }
    merge := { deep := options.deepMerge || merge.deep }
    codegen :=
      match options.compilerCommand with
      | some line =>
        { codegen with
          command := (Text.fields Text.isBlank line.toList).map String.ofList }
      | none => codegen }

def Generate.run (options : Generate) (environment : List (String × String)) (tree : FileTree) :
    Ended :=
  match Settings.load tree environment options.config with
  | .error failure => ⟨tree, "", .error (.loading failure)⟩
  | .ok settings =>
    if options.noOp then ⟨tree, "", .ok ()⟩
    else
      let settings := options.applied settings
      let (result, progress) := settings.run (.ofCommand environment settings.codegen.command) tree
      ⟨progress.tree, "", result.mapError .synthesis⟩

def ShowMembers.run (options : ShowMembers) (tree : FileTree) : Ended :=
  match tree.read options.types with
  | .error _ => ⟨tree, "", .error (.unreadable options.types)⟩
  | .ok text =>
    let members := (Member.listToJson (Member.ofDeclarations text options.typeName)).pretty
    match options.out with
    | none => ⟨tree, members ++ "\n", .ok ()⟩
    | some path =>
      let (tree, result) := tree.write path (.text members)
      ⟨tree, "", result.mapError fun _ => .unwritable⟩

/-- Runs a command on the files of a tree, with variables of the environment. -/
def Command.run (command : Command) (environment : List (String × String)) (tree : FileTree) :
    Ended :=
  match command with
  | .generate options => options.run environment tree
  | .showMembers options => options.run tree

def Command.settingsPaths : Command → List String
  | .generate options =>
    let path := options.config.getD Settings.usualFile
    path :: Settings.withExtensions path
  | .showMembers _ => []

def settingsFiles (settings : Settings) : List String :=
  let { input, dataset, .. } := settings
  [input.schema, input.overlay, input.output, input.typesOut, input.defaultsOut, dataset.schema,
    dataset.overlay, dataset.envelope, dataset.typesOut].filterMap id

/-- The paths that a command reads and writes, as far as the settings tell. -/
def Command.paths (command : Command) (environment : List (String × String)) (tree : FileTree) :
    List String :=
  match command with
  | .generate options =>
    match Settings.load tree environment options.config with
    | .ok settings => settingsFiles (options.applied settings)
    | .error _ => []
  | .showMembers options => options.types :: options.out.toList

/-- Whether a command runs a program, which may look at any file. -/
def Command.runsProgram (command : Command) (environment : List (String × String))
    (tree : FileTree) : Bool :=
  match command with
  | .generate options =>
    match Settings.load tree environment options.config with
    | .ok settings => !(options.applied settings).codegen.command.isEmpty
    | .error _ => false
  | .showMembers _ => false

/-- The variables of the environment that settings are looked for in. -/
def settingsVariables : List String :=
  ["INPUT__SCHEMA", "INPUT__OVERLAY", "INPUT__OUTPUT", "INPUT__TYPES_OUT", "INPUT__DEFAULTS_OUT",
    "DATASET__SCHEMA", "DATASET__OVERLAY", "DATASET__ENVELOPE", "DATASET__TYPES_OUT",
    "MERGE__DEEP", "CODEGEN__INPUT_TYPE_NAME", "CODEGEN__DATASET_TYPE_NAME",
    "CODEGEN__HOST_ENV_VAR", "CODEGEN__TYPES_MODULE", "CODEGEN__COMMAND"].map
    (Settings.variableStart.toUpper ++ ·)

end SchemaLoom.CommandLine
