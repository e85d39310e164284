import SchemaLoom.Failure
import SchemaLoom.Member.Basic
import SchemaLoom.Text.Blank

/-!
# Defaults of an input

Members of the input type meet the defaults declared in the schema. An optional
member with a default gives a value to fill in, a required member without one
must be supplied, and the others give nothing. Filling lays the supplied input
over the values; on a host that fills defaults in itself nothing is done.

The interfaces that the declared types name are found by cutting each type at
its bars and taking brackets off, so the text of a type is all that is looked
at.
-/

namespace SchemaLoom

/-- What the members of an input type and the declared defaults amount to: the
values to fill in, the keys that must be supplied, the declared types of the
values, and the interfaces that those types name. -/
structure InputDefaults where
  values : Fields Json
  required : List String
  types : Fields String
  imports : List String
  deriving Repr

namespace InputDefaults

def dropBrackets : List Char → List Char
  | ']' :: '[' :: rest => dropBrackets rest
  | s => s

def bareArm (arm : List Char) : List Char :=
  Text.trim (dropBrackets (Text.trim arm).reverse).reverse

/-- Whether a text names an interface: a capital, then letters, digits,
underscores and dollars. -/
def isTypeName (s : List Char) : Bool :=
  s.head?.any Char.isUpper && s.all fun c => c.isAlphanum || c = '_' || c = '$'

/-- The interfaces named by the arms of a declared type. The text is cut at
every bar, those in literals and parentheses too. -/
def namedTypes (declaredType : String) : List String :=
  (((Text.splitBy (· = '|') declaredType.toList).map bareArm).filter isTypeName).map String.ofList

def filled (members : List Member) (defaults : Fields Json) : List (Member × Json) :=
  members.filterMap fun member =>
    if member.optional then (defaults.get? member.key).map (member, ·) else none

/-- What members and defaults amount to. A key that comes again keeps its place
and takes the type of the later member, and every interface is named once. -/
def ofMembers (members : List Member) (defaults : Fields Json) : InputDefaults :=
  let filled := filled members defaults
  { values := Fields.setAll [] (filled.map fun p => (p.1.key, p.2))
    required := (members.filter fun m => !m.optional && !defaults.has m.key).map Member.key
    types := Fields.setAll [] (filled.map fun p => (p.1.key, p.1.declaredType))
    imports := (filled.flatMap fun p => namedTypes p.1.declaredType).eraseDups }

end InputDefaults

/-- Where a program runs: where nobody fills defaults in, or where the host does
so before the program starts. -/
inductive Host where
  | plain
  | fillsDefaults
  deriving DecidableEq, Repr

/-- The host that a variable of the environment tells of: `1` or `true` says
that it fills defaults in. -/
def Host.ofFlag (flag : Option String) : Host :=
  match flag.map Text.trimString with
  | some "1" | some "true" => .fillsDefaults
  | _ => .plain

/-- The input with the values filled in. Only objects, `null` and a missing
input are filled; the last two need every required key to have a default. -/
def InputDefaults.fill (defaults : InputDefaults) (host : Host) (input : Option Json) :
    Except Failure Json :=
  let lay (supplied : Fields Json) : Json := .object (defaults.values.setAll supplied)
  match host with
  | .fillsDefaults => .ok (input.getD .null)
  | .plain =>
    match input.getD .null with
    | .null =>
      if defaults.required = [] then .ok (lay []) else .error (.missingInput defaults.required)
    | .object supplied => .ok (lay supplied)
    | other => .ok other

end SchemaLoom
