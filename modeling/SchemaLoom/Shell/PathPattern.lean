import SchemaLoom.Shell.Fields
import SchemaLoom.Shell.Location
import SchemaLoom.Shell.Pattern

/-!
# Patterns of paths

A field with a pattern in it stands for the paths that match. A pattern matches
names, so that a slash is only matched by a slash; the names before the first
pattern are taken as they are written. Outside of quotes a backslash takes the
meaning of the character behind it away.

These are the rules of POSIX for patterns used for filename expansion: a point
in front of a name is matched only by a point, and paths come sorted by their
bytes.
-/

namespace SchemaLoom.Shell
namespace Field

/-- The text of a field without the backslashes that take meanings away. -/
def plain : Field → List Char
  | [] => []
  | [p] => [p.1]
  | ('\\', false) :: (c, _) :: rest => c :: plain rest
  | (c, _) :: rest => c :: plain rest

/-- Whether brackets that have been opened hold something and are closed before
the name ends, within so many characters. -/
def closes : Nat → Field → Bool
  | 0, _ => false
  | n + 1, field =>
    let field :=
      match field with
      | ('\\', false) :: rest => rest
      | field => field
    match field with
    | [] | ('/', _) :: _ => false
    | _ :: (']', false) :: _ => true
    | _ :: rest => closes n rest

/-- A field that is cut around the first name with a pattern in it, and around
the slash that ends that name, if one does. -/
structure Cut where
  before : Field
  name : Field
  behind : Option Field

/-- Goes on with a cut by a character of the name. -/
def Cut.add (cut : Cut) (p : Char × Bool) : Cut := { cut with name := cut.name ++ [p] }

/-- Goes through a field for the first name with a pattern in it, behind what
was gone through and the name so far; so many characters at most. -/
def search (before name : Field) (isPattern : Bool) : Nat → Field → Option Cut
  | 0, _ | _, [] => if isPattern then some ⟨before, name, none⟩ else none
  | n + 1, (c, quoted) :: rest =>
    let escaped : Option (Char × Bool) := if c = '\\' && !quoted then rest.head? else none
    let here := if escaped.isSome then (c, quoted) :: rest.take 1 else [(c, quoted)]
    let rest := if escaped.isSome then rest.drop 1 else rest
    if (escaped.map (·.1)).getD c = '/' then
      if isPattern then some ⟨before, name, some rest⟩
      else search (before ++ name ++ here) [] false n rest
    else
      let opens : Bool :=
        !quoted && (c = '*' || c = '?' ||
          (c = '[' && closes (rest.length + 1) (if rest.head? = some ('!', false) then rest.tail
            else rest)))
      search before (name ++ here) (isPattern || opens) n rest

/-- Whether a name with a pattern in it matches names that start with a point. -/
def startsWithPoint (name : Field) : Bool :=
  match name with
  | ('\\', false) :: ('.', _) :: _ | ('.', _) :: _ => true
  | _ => false

end Field

namespace Session

/-- The names in the directory that a path leads to. -/
def namesAt (shell : Session) (path : List Char) : List String :=
  match shell.locate (if path = [] then ['.'] else path) with
  | .ok place =>
    if shell.world.tree.isDirectory place then [".", ".."] ++ shell.world.tree.namesIn place else []
  | .error _ => []

/-- The paths that a field matches behind what is written already; so many
patterns at most. -/
def pathsFrom (shell : Session) : Nat → List Char → Field → List (List Char)
  | 0, _, _ => []
  | n + 1, written, field =>
    match Field.search [] [] false field.length field with
    | none =>
      let path := written ++ field.plain
      if written ≠ [] && shell.isThere path then [path] else []
    | some cut =>
      let written := written ++ cut.before.plain
      let pattern := Pattern.ofChars cut.name
      let names := ((shell.namesAt written).map ofText).filter fun name =>
        (name.head? ≠ some '.' || cut.name.startsWithPoint) && pattern.accepts name
      match cut.behind with
      | none => names.map (written ++ ·)
      | some behind => names.flatMap fun name => shell.pathsFrom n (written ++ name ++ ['/']) behind

/-- The texts that a field stands for: the paths that match it in order, or itself. -/
def textsOf (shell : Session) (field : Field) : List (List Char) :=
  let itself := [field.map (·.1)]
  if shell.has .noglob then itself
  else
    match shell.pathsFrom (field.length + 1) [] field with
    | [] => itself
    | paths => paths.mergeSort fun a b => !decide (b < a)

end Session
end SchemaLoom.Shell
