import SchemaLoom.Settings.Value
import SchemaLoom.Text.Lines
import SchemaLoom.Toml.Text

/-!
# Truth values and numbers of TOML

Underscores may stand between two digits. Whole numbers have at most 64 bits
with their sign; only those without a sign may be in base two, eight or sixteen.

The forms are those of TOML 1.0 for booleans, integers and floats, the words for
what is no finite number among them.
-/

namespace SchemaLoom.Toml

def afterWord (word : String) (s : List Char) : Option (List Char) :=
  Text.afterPattern word.toList s

/-- Digits with underscores between them, the underscores left out; at least one. -/
def digits (isDigit : Char → Bool) : Reader (List Char)
  | [] => none
  | c :: rest => if isDigit c then more [c] rest else none
where
  more (read : List Char) : Reader (List Char)
    | '_' :: c :: rest => if isDigit c then more (c :: read) rest else none
    | c :: rest =>
      if isDigit c then more (c :: read) rest
      else if c = '_' then none
      else some (read.reverse, c :: rest)
    | [] => some (read.reverse, [])

def sign : List Char → List Char × List Char
  | '+' :: rest => (['+'], rest)
  | '-' :: rest => (['-'], rest)
  | rest => ([], rest)

/-- Decimal digits that are a single zero or do not start with one. -/
def plainDigits : Reader (List Char)
  | '0' :: rest => some (['0'], rest)
  | s => digits Char.isDigit s

def fraction : Reader (List Char)
  | '.' :: rest => (digits Char.isDigit rest).map fun p => ('.' :: p.1, p.2)
  | s => some ([], s)

def exponent : Reader (List Char)
  | c :: rest =>
    if c = 'e' || c = 'E' then
      let (mark, rest) := sign rest
      (digits Char.isDigit rest).map fun p => ('e' :: mark ++ p.1, p.2)
    else some ([], c :: rest)
  | [] => some ([], [])

/-- A number, unless it is a decimal too large for one. A point or an exponent
makes it no whole number. -/
def number : Reader SettingValue := fun s =>
  let (mark, s) := sign s
  match afterWord "inf" s, afterWord "nan" s with
  | some rest, _ => some (.number (.infinite (mark = ['-'])), rest)
  | _, some rest => some (.number .notANumber, rest)
  | none, none =>
    (plainDigits s).bind fun whole =>
      (fraction whole.2).bind fun part =>
        (exponent part.2).bind fun power =>
          if part.1 = [] && power.1 = [] then
            let n := Wide.digitsValue whole.1
            let value : Int := if mark = ['-'] then -n else n
            if -(Int.pow 2 63) ≤ value && value < Int.pow 2 63 then some (.integer value, power.2)
            else none
          else
            match Wide.ofText? (mark ++ whole.1 ++ part.1 ++ power.1) with
            | some (.infinite false) | none => none
            | some x => some (.number x, power.2)

/-- A whole number in another base, behind the two characters that tell which. -/
def based (base : Nat) (isDigit : Char → Bool) : Reader SettingValue := fun s =>
  (digits isDigit s).bind fun p =>
    let n := p.1.foldl (fun n c => base * n + (hexValue? c).getD 0) 0
    if n < Nat.pow 2 63 then some (.integer n, p.2) else none

def scalar : Reader SettingValue := fun s =>
  match s with
  | '0' :: 'x' :: rest => based 16 (fun c => (hexValue? c).isSome) rest
  | '0' :: 'o' :: rest => based 8 (fun c => '0' ≤ c && c ≤ '7') rest
  | '0' :: 'b' :: rest => based 2 (fun c => c = '0' || c = '1') rest
  | s =>
    match afterWord "true" s, afterWord "false" s with
    | some rest, _ => some (.bool true, rest)
    | none, some rest => some (.bool false, rest)
    | none, none => number s

end SchemaLoom.Toml
