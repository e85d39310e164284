import SchemaLoom.FileTree.Basic
import SchemaLoom.Text.Lines

/-!
# What every machine has

The programs that a shell can call, where they are, and a few other files that
are always there.

Only utilities that compile commands are written with stand here: `cat`, `echo`,
`true`, `false` and the shell. Any other program is one that cannot be found.
-/

namespace SchemaLoom.Shell

/-- The programs there are: one that copies files, one that writes its
arguments, those that only end with a status, and the shell itself. -/
inductive Program where
  | copy
  | echo
  | constant (status : Nat)
  | shell
  deriving DecidableEq, Repr

def programDirectories : List String := ["/usr/bin/", "/bin/"]

def Program.ofName? (name : String) : Option Program :=
  match name with
  | "cat" => some .copy
  | "echo" => some .echo
  | "true" => some (.constant 0)
  | "false" => some (.constant 1)
  | "sh" | "dash" => some .shell
  | _ => none

/-- The program that a command calls by its name or by its path. -/
def Program.find? (command : List Char) : Option Program :=
  let names := programDirectories.filterMap fun directory =>
    Text.afterPattern directory.toList command
  (command :: names).findSome? fun name => Program.ofName? (String.ofList name)

/-- Whether a program is at the end of a path from the root. -/
def isProgramAt (path : String) : Bool :=
  path.toList.contains '/' && (Program.find? path.toList).isSome

def usualFiles : List String := ["/etc/passwd", "/etc/group", "/etc/shadow", "/etc/profile"]

end SchemaLoom.Shell
