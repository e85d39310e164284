import SchemaLoom.Toml.Text

/-!
# Dates and times of TOML

Dates and times are read for their value and written out again in one form: a
`T` between the two, no zeros at the end of a fraction, and a `Z` or hours and
minutes for the offset. A date stands alone unless the hour of a time follows;
in a string that stands for a date nothing else can follow it.

The forms that are read are the four kinds of dates and times of TOML 1.0.
-/

namespace SchemaLoom.Toml

def fixedDigits : Nat → Nat → Reader Nat
  | 0, n, s => some (n, s)
  | k + 1, n, c :: rest =>
    if c.isDigit then fixedDigits k (10 * n + (c.toNat - '0'.toNat)) rest else none
  | _ + 1, _, [] => none

def twoDigits (low high : Nat) : Reader Nat := fun s =>
  (fixedDigits 2 0 s).bind fun p => if low ≤ p.1 && p.1 ≤ high then some p else none

def expect (c : Char) : List Char → Option (List Char)
  | d :: rest => if c = d then some rest else none
  | [] => none

def padded (width n : Nat) : List Char :=
  let digits := (toString n).toList
  List.replicate (width - digits.length) '0' ++ digits

def daysIn (year month : Nat) : Nat :=
  if month = 2 then
    if year % 4 = 0 && (year % 100 ≠ 0 || year % 400 = 0) then 29 else 28
  else if [4, 6, 9, 11].contains month then 30 else 31

def date : Reader (List Char) := fun s => do
  let (year, s) ← fixedDigits 4 0 s
  let s ← expect '-' s
  let (month, s) ← twoDigits 1 12 s
  let s ← expect '-' s
  let (day, s) ← twoDigits 1 (daysIn year month) s
  return (padded 4 year ++ '-' :: padded 2 month ++ '-' :: padded 2 day, s)

/-- A fraction of a second, of which nine places count, written out; or nothing. -/
def secondFraction : Reader (List Char)
  | '.' :: rest =>
    match rest.takeWhile Char.isDigit with
    | [] => none
    | places =>
      let kept := ((places.take 9).reverse.dropWhile (· = '0')).reverse
      some (if kept = [] then [] else '.' :: kept, rest.dropWhile Char.isDigit)
  | s => some ([], s)

def time : Reader (List Char) := fun s => do
  let (hour, s) ← twoDigits 0 23 s
  let s ← expect ':' s
  let (minute, s) ← twoDigits 0 59 s
  let s ← expect ':' s
  let (second, s) ← twoDigits 0 60 s
  let (fraction, s) ← secondFraction s
  return (padded 2 hour ++ ':' :: padded 2 minute ++ ':' :: padded 2 second ++ fraction, s)

/-- An offset of so many minutes, written out; none at all has a plus. -/
def offsetText (mark : Char) (minutes : Nat) : List Char :=
  (if minutes = 0 then '+' else mark) :: padded 2 (minutes / 60) ++ ':' :: padded 2 (minutes % 60)

def offset : Reader (List Char)
  | [] => some ([], [])
  | c :: rest =>
    if c = 'Z' || c = 'z' then some (['Z'], rest)
    else if c = '+' || c = '-' then do
      let (hours, s) ← twoDigits 0 23 rest
      let s ← expect ':' s
      let (minutes, s) ← twoDigits 0 59 s
      return (offsetText c (60 * hours + minutes), s)
    else some ([], c :: rest)

/-- Whether a character may stand between a date and a time. -/
def isTimeMark (c : Char) : Bool := c = 'T' || c = 't' || c = ' '

/-- Whether a text starts with the hour of a time. -/
def startsTime (s : List Char) : Bool :=
  ((twoDigits 0 23 s).bind fun p => expect ':' p.2).isSome

/-- A date with a time and an offset, as far as they are there, or a time alone;
written out. -/
def dateTime : Reader (List Char) := fun s =>
  match date s with
  | none => time s
  | some (day, rest) =>
    match rest with
    | [] => some (day, [])
    | c :: more =>
      if isTimeMark c && startsTime more then do
        let (clock, s) ← time more
        let (zone, s) ← offset s
        return (day ++ 'T' :: clock ++ zone, s)
      else some (day, c :: more)

/-- Whether a text starts like a date or a time. -/
def startsDateTime (s : List Char) : Bool :=
  ((fixedDigits 4 0 s).bind fun p => expect '-' p.2).isSome ||
    ((fixedDigits 2 0 s).bind fun p => expect ':' p.2).isSome

/-- The date, the time or both that a string is, written out. Behind a date
nothing but a time can stand, and an offset only behind both. -/
def dateTimeOf (s : List Char) : Option (List Char) := do
  let (written, rest) ←
    match date s with
    | none => time s
    | some (day, c :: more) =>
      if isTimeMark c then do
        let (clock, s) ← time more
        let (zone, s) ← offset s
        pure (day ++ 'T' :: clock ++ zone, s)
      else none
    | some alone => pure alone
  if rest = [] then some written else none

end SchemaLoom.Toml
