import SchemaLoom.Shell.Expansion

/-!
# Arguments of builtin commands

What builtin commands have in common: options in front, numbers, and text that
is written for a reader or to be read back.

Options follow the utility syntax guidelines of POSIX: letters behind a hyphen,
in one argument or in several, up to the first argument that is no option or to
two hyphens alone.
-/

namespace SchemaLoom.Shell.Builtin

open SchemaLoom.Shell.Action

/-- Takes options from the front of arguments; two hyphens end them. Each comes
with its argument, which is the rest of its word or else the next word, and is
empty if the option takes none. -/
def takeOptionsOf (allowed withArgument : List Char) (args : List (List Char)) :
    Action (List (Char × List Char) × List (List Char)) := do
  match args with
  | ['-', '-'] :: rest => return ([], rest)
  | ('-' :: c :: letters) :: rest =>
    let isWrong (letter : Char) : Bool := !allowed.contains letter && !withArgument.contains letter
    let plain := (c :: letters).takeWhile fun letter => !withArgument.contains letter
    let options := plain.map fun letter => (letter, [])
    match plain.find? isWrong, (c :: letters).drop plain.length, rest with
    | some letter, _, _ => fail ("Illegal option -".toList ++ [letter])
    | none, [], rest =>
      let (more, rest) ← takeOptionsOf allowed withArgument rest
      return (options ++ more, rest)
    | none, [letter], [] => fail ("No arg for -".toList ++ [letter] ++ " option".toList)
    | none, [letter], arg :: rest =>
      let (more, rest) ← takeOptionsOf allowed withArgument rest
      return (options ++ (letter, arg) :: more, rest)
    | none, letter :: arg, rest =>
      let (more, rest) ← takeOptionsOf allowed withArgument rest
      return (options ++ (letter, arg) :: more, rest)
  | args => return ([], args)
termination_by args.length

def takeOptions (allowed : List Char) (args : List (List Char)) :
    Action (List Char × List (List Char)) := do
  let (options, rest) ← takeOptionsOf allowed [] args
  return (options.map (·.1), rest)

def print (s : List Char) : Action Unit :=
  modify fun shell => { shell with printed := shell.printed ++ s }

/-- What is kept under names in a table with so many rows, as the table is
listed: row by row, and what came first before the rest of its row. -/
def inTable {α : Type} (rows : Nat) (name : α → List Char) (entries : List α) : List α :=
  let row (entry : α) : Nat :=
    let codes := (name entry).map Char.toNat
    (16 * codes.headD 0 + codes.foldl (· + ·) 0) % rows
  entries.mergeSort fun a b => row a ≤ row b

/-- A text in quotes, as the shell reads it back, of so many pieces at most.
Quotes of the text stand between quotes of the other kind. -/
def quotedUpTo : Nat → List Char → List Char
  | 0, _ => []
  | n + 1, s =>
    let rest := s.dropWhile (· ≠ '\x27')
    let quotes := rest.takeWhile (· = '\x27')
    let after := rest.dropWhile (· = '\x27')
    ['\x27'] ++ s.takeWhile (· ≠ '\x27') ++ ['\x27'] ++
      (if quotes = [] then [] else ['\x22'] ++ quotes ++ ['\x22']) ++
      (if after = [] then [] else quotedUpTo n after)

end SchemaLoom.Shell.Builtin
