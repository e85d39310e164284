import SchemaLoom.Member.Basic
import SchemaLoom.TypeExpr.Basic

/-!
# The text of a type expression

Integers and numbers are one type in a declaration. Choices are written as
string literals with bars between them. A union is put in parentheses in front
of the brackets of an array.
-/

namespace SchemaLoom.TypeExpr

/-- Whether the text of the type is a union of several, which needs parentheses
in front of brackets. -/
def isUnion : TypeExpr → Bool
  | .string choices => 1 < choices.length
  | .nullable _ => true
  | _ => false

/-- The text of a type. Names are written as they are and literals as JSON
strings; the fields of an object are not part of it. -/
def chars : TypeExpr → List Char
  | .unknown => "unknown".toList
  | .boolean => "boolean".toList
  | .integer | .number => "number".toList
  | .string [] => "string".toList
  | .string (choice :: choices) =>
    " | ".toList.intercalate ((choice :: choices).map Json.stringChars)
  | .array item =>
    (if item.isUnion then '(' :: item.chars ++ [')'] else item.chars) ++ "[]".toList
  | .map => "\x7b [k: string]: unknown \x7d".toList
  | .object name _ => name.toList
  | .nullable inner => inner.chars ++ " | null".toList

def text (type : TypeExpr) : String := String.ofList type.chars

/-- A property as a member of the interface that declares it. It may be left out
unless it is required. -/
def memberOf (field : Property × TypeExpr) : Member :=
  ⟨field.1.key, field.2.text, !field.1.required⟩

def members : TypeExpr → List Member
  | .object _ fields => fields.map memberOf
  | .nullable inner => inner.members
  | _ => []

end SchemaLoom.TypeExpr
