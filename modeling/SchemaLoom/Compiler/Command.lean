import SchemaLoom.Compiler
import SchemaLoom.Shell.Run
import SchemaLoom.Text.Blank

/-!
# Commands as compilers

A command reads the schema, under the title of its type, and writes the
declaration file. Its arguments may ask for the name of the type. The members
are then read from the text. The command works among the files that there are
when it runs, and may change them even if it fails.

What the command writes besides is a part of the failure if it does not succeed,
and is not looked at otherwise.
-/

namespace SchemaLoom
namespace Command

def placeholder : String := "\x7bname\x7d"

def titled (schema : Json) (name : String) : Json :=
  match schema with
  | .object fields => .object (Fields.set "title" (.string name) fields)
  | other => other

/-- How much of its input a command may leave unread, since that much is written
without waiting. -/
def mostUnread : Nat := 65536

def failing (ended : Except Nat Nat) : String :=
  match ended with
  | .ok status => "exit status: " ++ toString status
  | .error signal =>
    "signal: " ++ toString signal ++
      match Shell.Builtin.signalNames[signal - 1]? with
      | some name => " (SIG" ++ name ++ ")"
      | none => ""

/-- The declaration file from what a program left, or why there is none. The
program must have succeeded, and what it printed must be UTF-8. -/
def declarations (program : String) (outcome : Shell.Outcome) : Except Failure String :=
  if outcome.ended matches .ok 0 then
    if mostUnread < outcome.unread.length then .error .fileAccess
    else
      (Text.Utf8.decode (Shell.toBytes outcome.output)).mapError fun fault =>
        .compiler ("output is not UTF-8: " ++ fault.message)
  else
    .error (.compiler ("\x60" ++ program ++ "\x60 exited with " ++ failing outcome.ended ++ ": " ++
      Text.trimString (Shell.toText outcome.errors)))

def absence (tree : FileTree) (program : String) : String :=
  if !Path.isPossible program || !(Path.names program).all FileTree.isPossibleName then
    "File name too long (os error 36)"
  else if Shell.isPath program.toList && tree.pathExists program then
    "Permission denied (os error 13)"
  else if Shell.isPath program.toList &&
      tree.leadsThroughFile (Place.start program) (Path.steps program) then
    "Not a directory (os error 20)"
  else "No such file or directory (os error 2)"

/-- The compiler that runs a program, with variables of the environment for it
to see. The schema is its input, and its output is the declaration file. -/
def compiler (environment : List (String × String)) (program : String) (args : List String) :
    Compiler := fun schema name tree =>
  let args := args.map (Text.replace placeholder name)
  let refused (reason : String) : Except Failure Compiled × FileTree :=
    (.error (.compiler ("failed to start \x60" ++ program ++ "\x60: " ++ reason)), tree)
  if (program :: args).any fun word => word.toList.contains '\x00' then
    refused "nul byte found in provided data"
  else
    let bindings := environment.map fun (name, value) => (Shell.ofText name, Shell.ofText value)
    let input := Shell.ofText (titled schema name).compact
    match Shell.call? tree bindings (Shell.ofText program) (args.map Shell.ofText) input with
    | none => refused (absence tree program)
    | some outcome => ((declarations program outcome).map fun text => ⟨text, none⟩, outcome.tree)

end Command

/-- The compiler of a command line: its first word is the program. An empty one
is the compiler of this library. -/
def Compiler.ofCommand (environment : List (String × String)) : List String → Compiler
  | [] => .builtin
  | program :: args => Command.compiler environment program args

end SchemaLoom
