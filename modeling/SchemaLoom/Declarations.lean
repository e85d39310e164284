import SchemaLoom.Member.Key
import SchemaLoom.Text.Lines
import SchemaLoom.TypeExpr.Text

/-!
# Declaration files

A declaration file starts with two lines of comment and goes on with one
interface after the other, each behind an empty line. An interface comes before
those of the objects in its properties, and no name is declared twice. Every
member takes one line, after the lines of its description.

Names are given out before anything is written, so a file is put together
without looking back at it, except for the names that were declared. Comments
break the end of a comment up wherever a description holds one.
-/

namespace SchemaLoom

/-- A declaration file under construction: its lines so far, and the names of
the interfaces of objects that are declared in them. -/
structure Declarations where
  lines : List (List Char)
  names : List String
  deriving Repr

namespace Declarations

def header : List (List Char) :=
  ["/* eslint-disable */".toList, "// Generated by schema-synth. Do not edit by hand.".toList]

/-- A file that declares nothing yet but has the two lines of comment at the top. -/
def empty : Declarations := ⟨header, []⟩

def text (file : Declarations) : String :=
  String.ofList (file.lines.flatMap (· ++ ['\n']))

def describedLine (line : List Char) : List Char :=
  "   * ".toList ++ Text.replaceFrom "*/".toList "*\\/".toList 0 line

/-- The lines in front of a member that say what it is for. The end of a comment
is broken up in them, so that a description cannot end its own comment. -/
def descriptionLines : Option String → List (List Char)
  | none => []
  | some description =>
    "  /**".toList :: (Text.lines description.toList).map describedLine ++ ["   */".toList]

def memberLine (property : Property) (type : TypeExpr) : List Char :=
  "  ".toList ++ Member.keyChars property.key ++ (if property.required then [] else ['?']) ++
    ": ".toList ++ type.chars ++ [';']

def memberLines (field : Property × TypeExpr) : List (List Char) :=
  descriptionLines field.1.description ++ [memberLine field.1 field.2]

def interfaceLines (name : String) (body : List (List Char)) : List (List Char) :=
  [] :: ("export interface ".toList ++ name.toList ++ " \x7b".toList) :: body ++ [['\x7d']]

/-- Adds the interface of an object, without those inside it, and notes its name. -/
def add (file : Declarations) (name : String) (fields : List (Property × TypeExpr)) :
    Declarations :=
  ⟨file.lines ++ interfaceLines name (fields.flatMap memberLines), file.names ++ [name]⟩

mutual

/-- Declares the object that a type is about, if it is about one, and after it
those inside it. A name that is declared already is not declared again. -/
def declareIn (file : Declarations) : TypeExpr → Declarations
  | .object name fields =>
    if file.names.contains name then file else declareFields (file.add name fields) fields
  | .array item => declareIn file item
  | .nullable inner => declareIn file inner
  | _ => file
termination_by structural type => type

def declareFields (file : Declarations) : List (Property × TypeExpr) → Declarations
  | [] => file
  | (_, type) :: rest => declareFields (declareIn file type) rest
termination_by structural fields => fields

end

def addOpen (file : Declarations) (name : String) : Declarations :=
  { file with lines := file.lines ++ interfaceLines name ["  [k: string]: unknown;".toList] }

/-- Declares a type under a name, and after it the objects inside it. A type
that is about no object gets an interface that is open to any key. -/
def declare (file : Declarations) (name : String) : TypeExpr → Declarations
  | .object _ fields =>
    if file.names.contains name then file else declareFields (file.add name fields) fields
  | .nullable inner => declare file name inner
  | _ => file.addOpen name

end Declarations
end SchemaLoom
