import SchemaLoom.Declarations
import SchemaLoom.FileTree.Basic
import SchemaLoom.Member.Scan
import SchemaLoom.TypeExpr.OfSchema

/-!
# Compilers of types

A compiler turns a schema into a declaration file for a type of the given name.
It may give the members of that type along with the text; where it does not,
they are read from the text.
-/

namespace SchemaLoom

/-- What a compiler gives: the declaration file, and the members of the root if
the compiler gives them. If it does not, they are read from the file. -/
structure Compiled where
  text : String
  members : Option (List Member)
  deriving Repr

def Compiled.membersOf (compiled : Compiled) (name : String) : List Member :=
  compiled.members.getD (Member.ofDeclarations compiled.text name)

/-- What the compiler of this library gives: the type expression of the schema,
declared. Its members come from the type expression and not from the text. -/
def Compiled.ofSchema (schema : Json) (name : String) : Except Failure Compiled :=
  match TypeExpr.ofSchema name schema with
  | .error fault => .error (.shape fault)
  | .ok type => .ok ⟨(Declarations.empty.declare name type).text, some type.members⟩

/-- Makes a declaration file from a schema and the name of its type. It runs
among files, which it may change, and its own failures are told in words. -/
abbrev Compiler := Json → String → FileTree → Except Failure Compiled × FileTree

namespace Compiler

/-- The compiler that a function is. It leaves all files as they are. -/
def ofFunction (compile : Json → String → Except Failure Compiled) : Compiler :=
  fun schema name tree => (compile schema name, tree)

def builtin : Compiler := ofFunction Compiled.ofSchema

end Compiler
end SchemaLoom
