import SchemaLoom.FileTree.Basic
import SchemaLoom.Settings.Format
import SchemaLoom.Settings.Layer

/-!
# Loading settings

Settings come from a file and then from the environment. A file that was asked
for must exist; the usual file need not. Where a path leads to no file, the path
with each extension of settings files is tried. A file with another extension is
no settings file.

Why a file cannot be read as settings is not told; that it cannot is a failure
of the run, before any file is written.
-/

namespace SchemaLoom.Settings

def usualFile : String := "schema-synth.toml"

def withExtensions (path : String) : List String :=
  match Path.fileName? path with
  | some _ =>
    let root := if Path.isAbsolute path then "/" else ""
    let start := root ++ Text.join "/" (Path.names path) ++ "."
    (FileFormat.all.flatMap FileFormat.extensions).map (start ++ ·)
  | none => []

/-- The text of the settings file that a path stands for, with its format. A
path with no file at it may still stand for one with an extension added. -/
def fileText? (tree : FileTree) (path : String) : Option (String × FileFormat) := do
  let path ← if tree.isFile path then some path else (withExtensions path).find? tree.isFile
  let format ← FileFormat.ofExtension? ((Path.extension? path).getD "")
  let text ← (tree.read path).toOption
  return (text, format)

/-- The layer of a file that was asked for, or of the usual one, which may be
missing. -/
def fileLayer (tree : FileTree) (path : Option String) :
    Except Failure (Fields SettingValue) :=
  let parsed (text : String) (format : FileFormat) : Except Failure (Fields SettingValue) :=
    match format.parse? text with
    | some layer => .ok layer
    | none => .error .settings
  match path with
  | some path =>
    if !tree.pathExists path then .error (.sourceNotFound path)
    else
      match fileText? tree path with
      | some (text, format) => parsed text format
      | none => .error .settings
  | none =>
    match fileText? tree usualFile with
    | some (text, format) => parsed text format
    | none => .ok []

/-- The settings in a file and in the environment, which goes before the file. -/
def load (tree : FileTree) (environment : List (String × String)) (path : Option String) :
    Except Failure Settings :=
  match fileLayer tree path with
  | .error failure => .error failure
  | .ok layer =>
    match ofLayers? [layer, environmentLayer environment] with
    | some settings => .ok settings
    | none => .error .settings

end SchemaLoom.Settings
