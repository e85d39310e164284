import SchemaLoom.Settings.Basic
import SchemaLoom.Settings.Value
import SchemaLoom.Text.Lines

/-!
# Layers of settings

Settings are what several layers say, the later over the earlier. A key at the
top of a layer may lead into a table by points and into a list by an index in
brackets. Keys in capitals are the same as in small letters, and keys that
nobody asks for are passed over. A section may be given as a list of its values
in order.

The layers are put together as one table of values. It is read into a structure
only at the end, with what is usual for everything that is not set.
-/

namespace SchemaLoom.Settings

open SettingValue

def isKeyChar (c : Char) : Bool := c.isAlphanum || c = '_' || c = '-' || c = ' '

/-- The index between brackets, spaces and tabs around it left out. It has at
most 64 bits with its sign. -/
def readIndex (s : List Char) : Option Int :=
  let isPadding (c : Char) : Bool := c = ' ' || c = '\t'
  let trimmed := ((s.dropWhile isPadding).reverse.dropWhile isPadding).reverse
  let (negative, digits) :=
    match trimmed with
    | '-' :: digits => (true, digits)
    | digits => (false, digits)
  if digits ≠ [] && digits.all Char.isDigit then
    let n : Int := Wide.digitsValue digits
    let index := if negative then -n else n
    if -(Int.pow 2 63) ≤ index && index < Int.pow 2 63 then some index else none
  else none

/-- The steps behind the first of a leading key, so many at most. -/
def readSteps : Nat → List Char → Option (List Step)
  | _, [] => some []
  | 0, _ => none
  | n + 1, '.' :: s =>
    match s.takeWhile isKeyChar with
    | [] => none
    | name => (readSteps n (s.dropWhile isKeyChar)).map (.key (String.ofList name) :: ·)
  | n + 1, '[' :: s =>
    match s.dropWhile (· ≠ ']') with
    | [] => none
    | _ :: rest =>
      (readIndex (s.takeWhile (· ≠ ']'))).bind fun i => (readSteps n rest).map (.index i :: ·)
  | _ + 1, _ => none

/-- The steps that a key at the top of a layer stands for; a key that does not
read as steps is one step as it is. -/
def stepsOf (key : String) : List Step :=
  let s := key.toList
  match s.takeWhile isKeyChar with
  | [] => [.key key]
  | name =>
    match readSteps s.length (s.dropWhile isKeyChar) with
    | some steps => .key (String.ofList name) :: steps
    | none => [.key key]

def addLayer (table : SettingValue) (layer : Fields SettingValue) : SettingValue :=
  layer.foldl
    (fun table entry => setAt entry.2.lowered (stepsOf entry.1.toLower) (some table)) table

/-- What the names of variables that hold settings start with, in small letters. -/
def variableStart : String := "schema_synth__"

/-- The value of a variable: a truth value, a whole number, a number, or else a
string. -/
def variableValue (text : String) : SettingValue :=
  match text.toLower with
  | "true" => .bool true
  | "false" => .bool false
  | _ =>
    match wholeNumber? text.toList with
    | some n => .integer n
    | none =>
      match Wide.ofText? text.toList with
      | some x => .number x
      | none => .text text
where
  wholeNumber? (s : List Char) : Option Int :=
    let (negative, digits) := Wide.cutSign s
    if digits.isEmpty || !digits.all Char.isDigit then none
    else
      let n : Int := Wide.digitsValue digits
      let n := if negative then -n else n
      if -(Int.pow 2 63) ≤ n && n < Int.pow 2 63 then some n else none

/-- The layer that the environment is. Two underscores in the name of a variable
are a point. -/
def environmentLayer (environment : List (String × String)) : Fields SettingValue :=
  environment.filterMap fun (name, value) =>
    (Text.afterPattern variableStart.toList name.toLower.toList).map fun rest =>
      (Text.replace "__" "." (String.ofList rest), variableValue value)

/-- The value of a field of a section, which has the place among the fields if
the section is a list. -/
def fieldOf (given : SettingValue) (name : String) (place : Nat) : Option SettingValue :=
  match given with
  | .table entries => Fields.get? name entries
  | .list items => items[place]?
  | _ => none

/-- What reading a field gives, or what is usual if the field is not set; none
if the value is of another kind. -/
def fieldOr {α : Type} (read : SettingValue → Option α) (usual : α) (given : SettingValue)
    (name : String) (place : Nat) : Option α :=
  match fieldOf given name place with
  | some value => read value
  | none => some usual

/-- A string that may be left out, even by setting nothing. -/
def optionalText (given : SettingValue) (name : String) (place : Nat) : Option (Option String) :=
  fieldOr (fun | .nothing => some none | value => value.asText?.map some) none given name place

def isSection : SettingValue → Bool
  | .table _ | .list _ => true
  | _ => false

def inputSection (given : SettingValue) : Option InputSettings := do
  return ⟨← optionalText given "schema" 0, ← optionalText given "overlay" 1,
    ← optionalText given "output" 2, ← optionalText given "types_out" 3,
    ← optionalText given "defaults_out" 4⟩

def datasetSection (given : SettingValue) : Option DatasetSettings := do
  return ⟨← optionalText given "schema" 0, ← optionalText given "overlay" 1,
    ← optionalText given "envelope" 2, ← optionalText given "types_out" 3⟩

def mergeSection (given : SettingValue) : Option MergeSettings := do
  return ⟨← fieldOr asBool? false given "deep" 0⟩

def codegenSection (given : SettingValue) : Option CodegenSettings := do
  let usual : CodegenSettings := {}
  return ⟨← fieldOr asText? usual.inputTypeName given "input_type_name" 0,
    ← fieldOr asText? usual.datasetTypeName given "dataset_type_name" 1,
    ← fieldOr asText? usual.hostVariable given "host_env_var" 2,
    ← optionalText given "types_module" 3,
    ← fieldOr asTexts? usual.command given "command" 4⟩

/-- A section of the table, or what is usual if it is not set. -/
def sectionOr {α : Type} (read : SettingValue → Option α) (usual : α) (table : SettingValue)
    (name : String) : Option α :=
  match Fields.get? name table.entries with
  | some given => if isSection given then read given else none
  | none => some usual

/-- The settings that a table gives; none if a value in it is of another kind
than its key asks for. -/
def ofTable? (table : SettingValue) : Option Settings := do
  return ⟨← sectionOr inputSection {} table "input", ← sectionOr datasetSection {} table "dataset",
    ← sectionOr mergeSection {} table "merge", ← sectionOr codegenSection {} table "codegen"⟩

/-- The settings that layers give together, the later over the earlier. -/
def ofLayers? (layers : List (Fields SettingValue)) : Option Settings :=
  ofTable? (layers.foldl addLayer (.table []))

end SchemaLoom.Settings
