import SchemaLoom.Settings.Value

/-!
# Scalars of YAML

What a text means that stands without quotes. Behind a tag it means a value of
one kind, or nothing.

The meanings are those of the core schema of YAML 1.2, but that of the words for
truth values and for nothing only the forms in small letters count.
-/

namespace SchemaLoom.Yaml

/-- A scalar that was read: its text, and whether it stood without quotes, so
that it may mean something else than itself. -/
structure Scalar where
  text : String
  isPlain : Bool
  deriving DecidableEq, Repr

/-- The value of a digit of a base up to sixteen. -/
def digit? (base : Nat) (c : Char) : Option Nat :=
  let value? : Option Nat :=
    if c.isDigit then some (c.toNat - '0'.toNat)
    else if 'a' ≤ c && c ≤ 'f' then some (c.toNat - 'a'.toNat + 10)
    else if 'A' ≤ c && c ≤ 'F' then some (c.toNat - 'A'.toNat + 10)
    else none
  value?.filter (· < base)

/-- The whole number of 64 bits that a sign and digits of a base write; the sign
may be left out. -/
def whole? (base : Nat) (s : List Char) : Option Int :=
  let (negative, digits) := Wide.cutSign s
  if digits = [] then none
  else
    (digits.mapM (digit? base)).bind fun values =>
      let n : Int := (values.foldl (base * · + ·) 0 : Nat)
      let value := if negative then -n else n
      if -(Int.pow 2 63) ≤ value && value < Int.pow 2 63 then some value else none

/-- The whole number that a text is. Behind `0x` it has base sixteen, behind
`0o` base eight. -/
def wholeOf? (s : List Char) : Option Int :=
  let marked? : Option Int :=
    match s with
    | '0' :: 'x' :: digits => whole? 16 digits
    | '0' :: 'o' :: digits => whole? 8 digits
    | '+' :: digits => whole? 10 digits
    | _ => none
  marked?.or (whole? 10 s)

def specialNumbers : List String :=
  [".inf", ".Inf", ".INF", "+.inf", "+.Inf", "+.INF", "-.inf", "-.Inf", "-.INF", ".nan", ".NaN",
    ".NAN"]

/-- What a text without quotes means. No setting is infinite, so that there is
no meaning then. -/
def meaning? (text : String) : Option SettingValue :=
  match text with
  | "~" | "null" => some .nothing
  | "true" => some (.bool true)
  | "false" => some (.bool false)
  | text =>
    match wholeOf? text.toList with
    | some n => some (.integer n)
    | none =>
      if specialNumbers.contains text then none
      else if text.toList.any Char.isDigit then
        match Wide.ofText? text.toList with
        | some x => some (.number x)
        | none => some (.text text)
      else some (.text text)

/-- What a text without quotes means behind a tag for one kind of values;
nothing if it is none of that kind. -/
def meaningAs? (kind : String) (text : String) : Option SettingValue :=
  match kind with
  | "bool" =>
    some (if text = "true" then .bool true else if text = "false" then .bool false else .nothing)
  | "int" => some (((whole? 10 text.toList).map .integer).getD .nothing)
  | "float" =>
    if specialNumbers.contains text then none
    else if text.toList.any Char.isDigit then
      some (((Wide.ofText? text.toList).map .number).getD .nothing)
    else some .nothing
  | "null" => some .nothing
  | _ => some (.text text)

/-- The text of a value that is a key; a number stays as it was written. -/
def keyOf? (text : String) : SettingValue → Option String
  | .text s => some s
  | .integer n => some (toString n)
  | .bool b => some (if b then "true" else "false")
  | .number _ => some text
  | _ => none

end SchemaLoom.Yaml
