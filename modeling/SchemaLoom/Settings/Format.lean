import SchemaLoom.Ini.Document
import SchemaLoom.Json5.Document
import SchemaLoom.Ron.Document
import SchemaLoom.Settings.FromJson
import SchemaLoom.Toml.Document
import SchemaLoom.Yaml.Document

/-!
# Formats of settings files

What comes behind the last point in the name of a settings file tells how it is
written.
-/

namespace SchemaLoom.Settings

/-- How a settings file is written. -/
inductive FileFormat where
  | toml
  | json
  | yaml
  | ini
  | ron
  | json5
  deriving DecidableEq, Repr

namespace FileFormat

def all : List FileFormat := [.toml, .json, .yaml, .ini, .ron, .json5]

def extensions : FileFormat → List String
  | toml => ["toml"]
  | json => ["json"]
  | yaml => ["yaml", "yml"]
  | ini => ["ini"]
  | ron => ["ron"]
  | json5 => ["json5"]

/-- The format of files with an extension. No two formats share one. -/
def ofExtension? (extension : String) : Option FileFormat :=
  all.find? fun format => format.extensions.contains extension

/-- The settings in a text, whatever its format is. A text that cannot be read
gives none, and why is not told. -/
def parse? (format : FileFormat) (text : String) : Option (Fields SettingValue) :=
  match format with
  | toml => Toml.parse? text
  | json => ofJson? text
  | yaml => Yaml.parse? text
  | ini => Ini.parse? text
  | ron => Ron.parse? text
  | json5 => Json5.parse? text

end FileFormat
end SchemaLoom.Settings
