import SchemaLoom.Chain.Source
import SchemaLoom.Compiler
import SchemaLoom.InputDefaults.Module
import SchemaLoom.Schema.Allowlist
import SchemaLoom.Schema.Defaults
import SchemaLoom.Settings.Basic

/-!
# The two chains

The input chain stores the schema in order and with the keys that it may carry,
and makes declarations and a defaults module from it. The dataset chain puts the
schema into an envelope, as it is, and makes declarations. Every file is written
for itself: a failure leaves the files written before it in place, and a later
step may read what an earlier one wrote.

A run is a program over the progress made so far, the tree and the paths that
were written, so what it leaves behind where it fails is a part of its result.
The compiler is given to it and may be any function of the tree.
-/

namespace SchemaLoom

/-- How far a run has come: the files as they are now, and the paths written so
far, in order. -/
structure Progress where
  tree : FileTree
  written : List String
  deriving Repr

/-- A step of a run, which may fail and keeps the progress made before it
failed. So nothing that was written is taken back. -/
abbrev Run (α : Type) := ExceptT Failure (StateM Progress) α

namespace Chain

def writeText (path text : String) : Run Unit := do
  let progress ← get
  let (tree, result) := progress.tree.write path (.text text)
  set { progress with tree }
  match result with
  | .ok () => modify fun progress => { progress with written := progress.written ++ [path] }
  | .error failure => throw failure

def writeJson (path : String) (value : Json) : Run Unit :=
  writeText path (value.pretty ++ "\n")

def reading {α : Type} (read : FileTree → Except Failure α) : Run α := do
  match read (← get).tree with
  | .ok value => return value
  | .error failure => throw failure

def giving {α : Type} (result : Except Failure α) : Run α := reading fun _ => result

def compiling (compiler : Compiler) (schema : Json) (name : String) : Run Compiled := do
  let progress ← get
  let (result, tree) := compiler schema name progress.tree
  set { progress with tree }
  match result with
  | .ok compiled => return compiled
  | .error failure => throw failure

/-- The schema that the input chain stores: its root properties in order, and no
other keys than it may carry. -/
def stored (schema : Json) : Except Failure Json :=
  (Schema.keepAllowed (Schema.orderRoot schema)).mapError .shape

/-- The text of the defaults module for a stored schema and what was compiled
from it. Its members come from the compiler, or else from the text. -/
def defaultsModule (settings : Settings) (schema : Json) (compiled : Compiled) : String :=
  let name := settings.codegen.inputTypeName
  (InputDefaults.ofMembers (compiled.membersOf name) (Schema.defaultsOf schema)).moduleText
    ⟨name, settings.typesModule, settings.codegen.hostVariable⟩

/-- The input chain: load, order, filter, write the stored schema, compile, and
write the declarations and the defaults module where they are asked for. -/
def input (settings : Settings) (compiler : Compiler) (source : String) : Run Unit := do
  let policy := Schema.Policy.ofDeep settings.merge.deep
  let merged ← reading fun tree => Schema.load tree policy source settings.input.overlay
  let schema ← giving (stored merged)
  if let some path := settings.input.output then
    writeJson path schema
  if settings.input.typesOut.isSome || settings.input.defaultsOut.isSome then
    let compiled ← compiling compiler schema settings.codegen.inputTypeName
    if let some path := settings.input.typesOut then
      writeText path compiled.text
    if let some path := settings.input.defaultsOut then
      writeText path (defaultsModule settings schema compiled)

def enveloped (tree : FileTree) (path : String) (fields : Json) : Except Failure Json :=
  match tree.readSource path with
  | .error failure => .error failure
  | .ok (.object document) => .ok (.object (Fields.set "fields" fields document))
  | .ok _ => .error (.envelopeNotObject path)

/-- Replaces the `fields` of the envelope in a file. The document is read anew,
and all its other keys are written back as they were. -/
def updateEnvelope (path : String) (fields : Json) : Run Unit := do
  let document ← reading fun tree => enveloped tree path fields
  writeJson path document

/-- The dataset chain: load, update the envelope, compile and write the
declarations. The schema is used as it was loaded, neither put in order nor
filtered. -/
def dataset (settings : Settings) (compiler : Compiler) (source : String) : Run Unit := do
  let policy := Schema.Policy.ofDeep settings.merge.deep
  let merged ← reading fun tree => Schema.load tree policy source settings.dataset.overlay
  if let some path := settings.dataset.envelope then
    updateEnvelope path merged
  if let some path := settings.dataset.typesOut then
    let compiled ← compiling compiler merged settings.codegen.datasetTypeName
    writeText path compiled.text

def both (settings : Settings) (compiler : Compiler) : Run Unit := do
  if settings.input.schema.isNone && settings.dataset.schema.isNone then
    throw .noSource
  if let some source := settings.input.schema then
    input settings compiler source
  if let some source := settings.dataset.schema then
    dataset settings compiler source

end Chain

/-- Runs both chains on the files of a tree: what failed, if anything, and how
far the run came. The dataset chain is not started if the input chain fails. -/
def Settings.run (settings : Settings) (compiler : Compiler) (tree : FileTree) :
    Except Failure Unit × Progress :=
  (Chain.both settings compiler).run.run ⟨tree, []⟩

end SchemaLoom
