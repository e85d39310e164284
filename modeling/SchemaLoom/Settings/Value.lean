import SchemaLoom.Json.Basic
import SchemaLoom.Number.Wide

/-!
# Values of settings

Settings come from files and from the environment as values of a few kinds. What
is asked for as a string may be a truth value or a number, which is then written
out; what is asked for as a truth value may be a number or one of a few words.

What a value is asked for as decides what it means. A list or a table is never
taken for a single value.
-/

namespace SchemaLoom

/-- A value in a source of settings. A list can hold places that nothing was set
to. -/
inductive SettingValue where
  | nothing
  | text (s : String)
  | bool (b : Bool)
  | integer (n : Int)
  | number (x : Wide)
  | list (items : List SettingValue)
  | table (entries : List (String × SettingValue))
  deriving Repr, Inhabited

namespace SettingValue

def asText? : SettingValue → Option String
  | .text s => some s
  | .bool b => some (if b then "true" else "false")
  | .integer n => some (toString n)
  | .number x => some x.text
  | _ => none

def trueWords : List String := ["1", "true", "on", "yes"]

def falseWords : List String := ["0", "false", "off", "no"]

/-- The value as a truth value; a number other than zero is true, and so are
some words. -/
def asBool? : SettingValue → Option Bool
  | .bool b => some b
  | .integer n => some (n ≠ 0)
  | .number x => some !x.isZero
  | .text s =>
    let word := String.ofList (s.toList.map Char.toLower)
    if trueWords.contains word then some true
    else if falseWords.contains word then some false
    else none
  | _ => none

def asTexts? : SettingValue → Option (List String)
  | .list items => items.mapM asText?
  | _ => none

def entries : SettingValue → Fields SettingValue
  | .table entries => entries
  | _ => []

def items : SettingValue → List SettingValue
  | .list items => items
  | _ => []

mutual

/-- The value with the keys of all its tables in lower case, since settings are
found whatever the case of their keys is. -/
def lowered : SettingValue → SettingValue
  | .list items => .list (loweredItems items)
  | .table entries => .table (loweredEntries entries)
  | value => value
termination_by structural value => value

def loweredItems : List SettingValue → List SettingValue
  | [] => []
  | item :: rest => item.lowered :: loweredItems rest
termination_by structural items => items

def loweredEntries : List (String × SettingValue) → List (String × SettingValue)
  | [] => []
  | (key, value) :: rest => (key.toLower, value.lowered) :: loweredEntries rest
termination_by structural entries => entries

end

mutual

/-- Lays a value over what is set already. Tables are laid over tables entry by
entry; any other value takes the place of what was there. -/
def laidOver (present : Option SettingValue) : SettingValue → SettingValue
  | .table [] =>
    match present with
    | some value => value
    | none => .table []
  | .table (entry :: rest) => .table (layEntries (present.elim [] entries) (entry :: rest))
  | value => value
termination_by structural value => value

/-- Lays one entry after the other over a table. -/
def layEntries (present : List (String × SettingValue)) :
    List (String × SettingValue) → List (String × SettingValue)
  | [] => present
  | (key, value) :: rest =>
    layEntries (Fields.set key (value.laidOver (Fields.get? key present)) present) rest
termination_by structural entries => entries

end

/-- One step of the way to a value: into the entry of a table, or into an item
of a list, counted from its end if negative. -/
inductive Step where
  | key (name : String)
  | index (i : Int)
  deriving DecidableEq, Repr

/-- A list with one item changed, made longer if it is too short. -/
def changeItem (change : Option SettingValue → SettingValue) (place : Nat)
    (items : List SettingValue) : List SettingValue :=
  if place < items.length then items.set place (change items[place]?)
  else items ++ List.replicate (place - items.length) .nothing ++ [change none]

/-- Sets the value that steps lead to. Whatever is on the way and is no table,
or no list, gives way to one. A value is laid over what an entry holds, and
takes the place of an item. -/
def setAt (value : SettingValue) : List Step → Option SettingValue → SettingValue
  | [], present => value.laidOver present
  | .key name :: rest, present =>
    let entries := present.elim [] entries
    .table (Fields.set name (setAt value rest (Fields.get? name entries)) entries)
  | .index i :: rest, present =>
    let items := present.elim [] items
    let place := if i < 0 then items.length - i.natAbs else i.natAbs
    let change := if rest = [] then fun _ => value else setAt value rest
    .list (changeItem change place items)

end SettingValue
end SchemaLoom
