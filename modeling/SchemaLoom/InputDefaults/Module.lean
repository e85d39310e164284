import SchemaLoom.InputDefaults.Basic
import SchemaLoom.Json.Writer

/-!
# The defaults module

A module in the language of the declarations that holds the values to fill in,
the keys that must be supplied, the type of a filled input and the function that
fills. Each value and each key stands on a line of its own.

The lines are told one part after the other: the import of types, the class of
the failure, the two constants, the type and the function.
-/

namespace SchemaLoom.InputDefaults

/-- What a module is told besides the defaults: the name of the input type,
where that type is imported from, and the variable of the environment that tells
of the host. -/
structure ModuleOptions where
  typeName : String := "Input"
  typesModule : String := "./input.js"
  hostVariable : String := "APIFY_IS_AT_HOME"
  deriving DecidableEq, Repr

def opened : List Char := ['\x7b']

def closed : List Char := ['\x7d']

def importLines (defaults : InputDefaults) (options : ModuleOptions) : List (List Char) :=
  let names := options.typeName :: defaults.imports.filter (· ≠ options.typeName)
  ["/* eslint-disable */".toList,
    "// Generated by schema-synth. Do not edit by hand.".toList,
    "import type ".toList ++ opened ++ [' '] ++ ", ".toList.intercalate (names.map String.toList) ++
      [' '] ++ closed ++ " from ".toList ++ Json.stringChars options.typesModule ++ [';'],
    []]

def errorLines : List (List Char) :=
  ["export class MissingRequiredInputError extends Error ".toList ++ opened,
    "    readonly fields: readonly string[];".toList,
    [],
    "    constructor(fields: readonly string[]) ".toList ++ opened,
    "        super(\x60Input is missing required fields without defaults: $".toList ++ opened ++
      "fields.join(', ')".toList ++ closed ++ "\x60);".toList,
    "        this.name = 'MissingRequiredInputError';".toList,
    "        this.fields = fields;".toList,
    "    ".toList ++ closed,
    closed,
    []]

def valueLine (entry : String × Json) : List Char :=
  "    ".toList ++ Json.stringChars entry.1 ++ ": ".toList ++ Json.compactChars entry.2 ++ [',']

def requiredLine (key : String) : List Char :=
  "    ".toList ++ Json.stringChars key ++ [',']

def constantLines (defaults : InputDefaults) : List (List Char) :=
  ("export const DEFAULT_INPUT_VALUES = ".toList ++ opened) :: defaults.values.map valueLine ++
    [closed ++ " as const;".toList, [],
      "export const REQUIRED_INPUT_FIELDS_WITHOUT_DEFAULT = [".toList] ++
    defaults.required.map requiredLine ++ ["] as const;".toList, []]

def filledTypeName (options : ModuleOptions) : List Char :=
  options.typeName.toList ++ "WithDefaults".toList

def filledMemberLine (entry : String × String) : List Char :=
  "    ".toList ++ Json.stringChars entry.1 ++ ": ".toList ++ entry.2.toList ++ [';']

/-- The type of a filled input: the input type, with the values that are filled
in no longer optional. -/
def filledTypeLines (defaults : InputDefaults) (options : ModuleOptions) : List (List Char) :=
  let front := "export type ".toList ++ filledTypeName options ++ " = ".toList
  if defaults.types = [] then [front ++ options.typeName.toList ++ [';'], []]
  else
    (front ++ "Omit<".toList ++ options.typeName.toList ++ ", ".toList ++
        " | ".toList.intercalate (defaults.types.map fun entry => Json.stringChars entry.1) ++
        "> & ".toList ++ opened) ::
      defaults.types.map filledMemberLine ++ [closed ++ [';'], []]

def functionLines (options : ModuleOptions) : List (List Char) :=
  let type := options.typeName.toList
  let filled := filledTypeName options
  let host := "process.env.".toList ++ options.hostVariable.toList
  ["export function getInputWithDefaultValues(input?: ".toList ++ type ++ " | null): ".toList ++
      filled ++ [' '] ++ opened,
    "    if (".toList ++ host ++ " === '1' || ".toList ++ host ++ " === 'true') ".toList ++
      opened,
    "        return input as ".toList ++ filled ++ [';'],
    "    ".toList ++ closed,
    "    let provided = input;".toList,
    "    if (provided === undefined || provided === null) ".toList ++ opened,
    "        if (REQUIRED_INPUT_FIELDS_WITHOUT_DEFAULT.length > 0) ".toList ++ opened,
    "            throw new MissingRequiredInputError(REQUIRED_INPUT_FIELDS_WITHOUT_DEFAULT);".toList,
    "        ".toList ++ closed,
    "        provided = ".toList ++ opened ++ closed ++ " as ".toList ++ type ++ [';'],
    "    ".toList ++ closed,
    "    return ".toList ++ opened ++ " ...DEFAULT_INPUT_VALUES, ...provided ".toList ++ closed ++
      " as ".toList ++ filled ++ [';'],
    closed]

/-- All lines of the module: the imports, the error, the constants, the type of
a filled input and the function that fills. The error is the same for all
defaults, and so is the function up to names. -/
def moduleLines (defaults : InputDefaults) (options : ModuleOptions) : List (List Char) :=
  importLines defaults options ++ errorLines ++ constantLines defaults ++
    filledTypeLines defaults options ++ functionLines options

/-- The text of the module: every line with its end. -/
def moduleText (defaults : InputDefaults) (options : ModuleOptions) : String :=
  String.ofList ((moduleLines defaults options).flatMap (· ++ ['\n']))

end SchemaLoom.InputDefaults
