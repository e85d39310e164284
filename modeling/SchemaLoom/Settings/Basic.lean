import SchemaLoom.FileTree.Path

/-!
# Settings

What a run reads and writes. The input chain and the dataset chain each start
from a schema, with an overlay that may be missing; every output is written only
if a path is set for it.

Settings are read once and stay as they are; the parts of a run take from them
what they need.
-/

namespace SchemaLoom

/-- The paths of the input chain: the schema to start from and the one laid over
it, and where the stored schema, the declarations and the defaults module are
written. What has no path is not written. -/
structure InputSettings where
  schema : Option String := none
  overlay : Option String := none
  output : Option String := none
  typesOut : Option String := none
  defaultsOut : Option String := none
  deriving DecidableEq, Repr

/-- The paths of the dataset chain: the schema to start from and the one laid
over it, the document whose `fields` take the result in, and where the
declarations are written. -/
structure DatasetSettings where
  schema : Option String := none
  overlay : Option String := none
  envelope : Option String := none
  typesOut : Option String := none
  deriving DecidableEq, Repr

/-- How schemas are merged: whether shared objects and arrays are merged, too. -/
structure MergeSettings where
  deep : Bool := false
  deriving DecidableEq, Repr

/-- How declarations and the defaults module are made: the names of the two
types, the variable of the environment that tells of the host, where the
defaults module imports the input type from, if that is set, and the command
that compiles. Without one the compiler is that of this library. -/
structure CodegenSettings where
  inputTypeName : String := "Input"
  datasetTypeName : String := "DatasetItem"
  hostVariable : String := "APIFY_IS_AT_HOME"
  typesModule : Option String := none
  command : List String := []
  deriving DecidableEq, Repr

/-- All settings of a run, by section. A section that is left out is as usual. -/
structure Settings where
  input : InputSettings := {}
  dataset : DatasetSettings := {}
  merge : MergeSettings := {}
  codegen : CodegenSettings := {}
  deriving DecidableEq, Repr

/-- Where the defaults module imports the input type from: what is set, or a
module beside it with the name of the declaration file. -/
def Settings.typesModule (settings : Settings) : String :=
  match settings.codegen.typesModule with
  | some module => module
  | none =>
    match settings.input.typesOut.bind Path.stem? with
    | some stem => "./" ++ stem ++ ".js"
    | none => "./input.js"

end SchemaLoom
