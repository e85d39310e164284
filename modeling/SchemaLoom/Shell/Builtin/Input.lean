import SchemaLoom.Shell.Builtin.Arguments
import SchemaLoom.Shell.Fields

/-!
# Reading lines

The command that shares out a line of the input to variables. The last variable
gets all that is left, so that nothing of the line is lost but separators.

It is `read` of POSIX: fields are cut as they are behind an expansion, and
without the option `-r` a backslash takes the meaning of the next character away
or joins the next line to this one.
-/

namespace SchemaLoom.Shell.Builtin

open SchemaLoom.Shell.Action

/-- A line of input as it is read: the stretches that may be cut and those that
may not, how many characters were read, and whether the line has an end. -/
structure InputLine where
  stretches : List Stretch
  count : Nat
  isEnded : Bool

/-- A line with something in front of it that took so many characters. -/
def InputLine.behind (stretches : List Stretch) (count : Nat) (line : InputLine) : InputLine :=
  { line with stretches := stretches ++ line.stretches, count := line.count + count }

/-- The next line of some input. Unless it is taken as it is, a backslash joins
lines and keeps the character behind it from being cut at: `escaping` tells that
one came last. What follows may go on with the stretch before. Zero characters
are lost. -/
def inputLine (raw escaping continues : Bool) : List Char → InputLine
  | [] => ⟨[], 0, false⟩
  | c :: rest =>
    if c = '\x00' then (inputLine raw escaping continues rest).behind [] 1
    else if escaping then
      (inputLine raw false false rest).behind
        (if c = '\n' then [] else [⟨.never, [.char c true], false⟩]) 1
    else if c = '\n' then ⟨[], 1, true⟩
    else if c = '\\' && !raw then (inputLine raw true false rest).behind [] 1
    else (inputLine raw false true rest).behind [⟨.separators, [.char c false], continues⟩] 1

/-- Gives the parts of the next line of the input to variables, the last of
which gets all that is left. -/
def read (args : List (List Char)) : Action Unit := do
  let (options, names) ← takeOptionsOf ['r'] ['p'] args
  if names = [] then fail "arg count".toList
  let shell ← get
  let stream := shell.stream? 0
  let left := (stream.map shell.world.left).getD []
  let line := inputLine (options.any (·.1 = 'r')) false false left
  if let some stream := stream then
    set { shell with world := shell.world.advance stream line.count }
  let fields := Fields.ofStretches shell.separators (some names.length) line.stretches
  let values := fields.map fun field => field.map (·.1)
  for (name, value) in names.zip (values ++ List.replicate names.length []) do
    if !isName name then fail (name ++ ": bad variable name".toList)
    assign name value
  setStatus (if line.isEnded then 0 else 1)

end SchemaLoom.Shell.Builtin
