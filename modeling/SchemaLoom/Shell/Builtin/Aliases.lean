import SchemaLoom.Shell.Builtin.Arguments

/-!
# Aliases

The commands that change what words stand for. A script sees the change from its
next line on, since a line is read before any of its commands run.

They are `alias` and `unalias` of POSIX. Without arguments the first lists all
aliases, each written so that a shell reads it back.
-/

namespace SchemaLoom.Shell.Builtin

open SchemaLoom.Shell.Action

/-- What an alias stands for, in quotes behind its name. -/
def aliasText (name value : List Char) : List Char :=
  name ++ '=' :: quotedUpTo (value.length + 1) value

/-- Says under the name of a command that there is no such alias. -/
def missAlias (command : String) (name : List Char) : Action Unit := do
  write 2 (command.toList ++ ": ".toList ++ name ++ " not found\n".toList)
  setStatus 1

/-- The name and the value that an argument gives it. A name has at least one
character. -/
def cutAlias (s : List Char) : Option (List Char × List Char) :=
  match s with
  | [] => none
  | c :: rest =>
    match rest.dropWhile (· ≠ '=') with
    | _ :: value => some (c :: rest.takeWhile (· ≠ '='), value)
    | [] => none

/-- Makes words stand for texts, or writes what they stand for; without
arguments, what all do. -/
def setAlias (args : List (List Char)) : Action Unit := do
  if args = [] then
    for (name, value) in inTable 39 (·.1) (← get).aliases do
      print (aliasText name value ++ ['\n'])
  for arg in args do
    let aliases := (← get).aliases
    match cutAlias arg, aliases.lookup arg with
    | some (name, value), _ =>
      let changed :=
        if (aliases.lookup name).isSome then
          aliases.map fun other => if other.1 = name then (name, value) else other
        else aliases ++ [(name, value)]
      modify fun shell => { shell with aliases := changed }
    | none, some value => print (aliasText arg value ++ ['\n'])
    | none, none => missAlias "alias" arg

def unalias (args : List (List Char)) : Action Unit := do
  let (letters, names) ← takeOptions ['a'] args
  if letters ≠ [] then modify fun shell => { shell with aliases := [] }
  else
    for name in names do
      let aliases := (← get).aliases
      if (aliases.lookup name).isSome then
        modify fun shell => { shell with aliases := aliases.filter (·.1 ≠ name) }
      else missAlias "unalias" name

end SchemaLoom.Shell.Builtin
