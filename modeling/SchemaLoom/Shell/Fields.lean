/-!
# Fields

What the parts of a word stand for is cut into fields where it was not quoted.
It is kept in stretches, since separators that follow one another count together
only within one stretch. Blanks next to other separators belong to them; a zero
character separates the parameters of a shell.

This is field splitting as the POSIX shell command language has it, by the
characters in the variable `IFS`.
-/

namespace SchemaLoom.Shell

/-- What words become before they are cut: characters, and the ends of
quotations, which make a field even if there is nothing in them. -/
inductive Mark where
  | char (c : Char) (quoted : Bool)
  | quotation
  deriving DecidableEq, Repr

/-- Where marks may be cut: nowhere, at separators, or at zero characters alone. -/
inductive Cutting where
  | never
  | separators
  | zeros
  deriving DecidableEq, Repr

/-- Marks that are cut by one rule, and whether the stretch before goes on in them. -/
structure Stretch where
  cutting : Cutting
  marks : List Mark
  continues : Bool := false
  deriving Repr

/-- The characters of stretches, each with whether it is quoted. -/
def Stretch.chars (stretches : List Stretch) : List (Char × Bool) :=
  stretches.flatMap fun stretch =>
    stretch.marks.filterMap fun
      | .char c quoted => some (c, quoted)
      | .quotation => none

/-- The text that stretches amount to if they are not cut. -/
def Stretch.text (stretches : List Stretch) : List Char := (chars stretches).map (·.1)

abbrev Field := List (Char × Bool)

/-- Fields that are being made: the complete ones, the marks of the next one
backwards, what the last separator was, and how many fields may still be made,
if there is a limit. Of the last field separators at its end may have to go, so
what stays of it is counted. -/
structure Fields where
  done : List Field := []
  current : List Mark := []
  afterBlank : Bool := false
  atZeros : Bool := false
  afterZeros : Bool := false
  left : Option Nat := none
  kept : Option Nat := none

namespace Fields

def chars (marks : List Mark) : Field := Stretch.chars [⟨.never, marks.reverse, false⟩]

def push (fields : Fields) (mark : Mark) : Fields :=
  { fields with current := mark :: fields.current }

/-- Adds a character of the last field that may be made, which has all that is
left. -/
def addToLast (fields : Fields) (c : Mark) (isSeparator isBlank : Bool) : Fields :=
  let pushed := fields.push c
  if isBlank then { pushed with kept := fields.kept.or (some fields.current.length) }
  else
    { pushed with
      kept := if isSeparator && fields.afterBlank then fields.kept else none
      afterBlank := false }

def add (separators : List Char) (fields : Fields) (c : Char) (quoted : Bool) : Fields :=
  let isSeparator := c = '\x00' || (!fields.atZeros && separators.contains c)
  let isBlank := isSeparator && [' ', '\t', '\n', '\x00'].contains c
  let mark := Mark.char c quoted
  if fields.left = some 0 then fields.addToLast mark isSeparator isBlank
  else if fields.afterBlank then
    -- separators behind a blank one belong to it, and of others only the first does
    if isBlank then fields
    else if isSeparator then { fields with afterBlank := false }
    else { fields.push mark with afterBlank := false }
  else if !isSeparator then fields.push mark
  else
    let afterBlank := !(fields.afterZeros || fields.atZeros) && isBlank
    if fields.current = [] && afterBlank then fields
    else if fields.left = some 1 then
      { fields.push mark with left := some 0, kept := some fields.current.length, afterBlank }
    else
      { fields with
        done := chars fields.current :: fields.done
        current := []
        afterBlank
        left := fields.left.map (· - 1) }

def addStretch (separators : List Char) (fields : Fields) (stretch : Stretch) : Fields :=
  match stretch.cutting with
  | .never => stretch.marks.foldl push fields
  | cutting =>
    let fields :=
      if stretch.continues then fields
      else
        { fields with
          afterZeros := fields.atZeros, atZeros := cutting = .zeros, afterBlank := false }
    stretch.marks.foldl
      (fun fields mark =>
        match mark with
        | .char c quoted => fields.add separators c quoted
        | .quotation => fields.push mark)
      fields

/-- The fields with the last one among them. It is missing if it is empty,
unless zero characters ended the others. -/
def finish (fields : Fields) : List Field :=
  let current :=
    match fields.kept with
    | some count => fields.current.drop (fields.current.length - count)
    | none => fields.current
  if current = [] && !fields.atZeros then fields.done.reverse
  else (chars current :: fields.done).reverse

/-- The fields that stretches make, at most so many if there is a limit. -/
def ofStretches (separators : List Char) (most : Option Nat) (stretches : List Stretch) :
    List Field :=
  (stretches.foldl (addStretch separators) { left := most }).finish

end Fields
end SchemaLoom.Shell
