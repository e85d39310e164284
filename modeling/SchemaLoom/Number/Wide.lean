import SchemaLoom.Number.Shortest

/-!
# Binary64 numbers with infinities

Beside the finite numbers there are two infinities and one value that is no
number. A decimal out of range is read as an infinity. Written out, a number has
no exponent, and no point unless a digit other than zero follows it.

Such numbers come from settings only; a document has none of them.
-/

namespace SchemaLoom

/-- A binary64 number, an infinity or no number at all: all that binary64 has,
where a text or an operation may lead out of the finite numbers. -/
inductive Wide where
  | finite (x : Binary64)
  | infinite (negative : Bool)
  | notANumber
  deriving DecidableEq, Repr

namespace Wide

def ofDecimal (negative : Bool) (digits : Nat) (exponent : Int) : Wide :=
  match Binary64.ofDecimal? negative digits exponent with
  | some x => .finite x
  | none => .infinite negative

def isZero : Wide → Bool
  | .finite x => x.units = 0
  | _ => false

def style : DecimalStyle := ⟨none, none, false⟩

def text : Wide → String
  | .finite x => String.ofList (x.toChars style)
  | .infinite negative => if negative then "-inf" else "inf"
  | .notANumber => "NaN"

def cutSign : List Char → Bool × List Char
  | '-' :: s => (true, s)
  | '+' :: s => (false, s)
  | s => (false, s)

def digitsValue (s : List Char) : Nat := s.foldl (fun n c => 10 * n + (c.toNat - '0'.toNat)) 0

def readExponent : List Char → Option Int
  | [] => some 0
  | c :: s =>
    if c = 'e' || c = 'E' then
      let (negative, digits) := cutSign s
      if digits.isEmpty || !digits.all Char.isDigit then none
      else some (if negative then -(digitsValue digits) else digitsValue digits)
    else none

/-- The number written as digits, perhaps with a point among them, and perhaps
an exponent. Without a digit on either side of the point it is no number. -/
def readDecimal (negative : Bool) (s : List Char) : Option Wide :=
  let whole := s.takeWhile Char.isDigit
  let (fraction, tail) :=
    match s.dropWhile Char.isDigit with
    | '.' :: s => (s.takeWhile Char.isDigit, s.dropWhile Char.isDigit)
    | s => ([], s)
  if whole.isEmpty && fraction.isEmpty then none
  else
    (readExponent tail).map fun exponent =>
      ofDecimal negative (digitsValue (whole ++ fraction)) (exponent - fraction.length)

/-- The number that a text writes: a sign or none, and a decimal or one of the
words `inf`, `infinity` and `nan` in letters of any case. -/
def ofText? (s : List Char) : Option Wide :=
  let (negative, s) := cutSign s
  match String.ofList (s.map Char.toLower) with
  | "inf" | "infinity" => some (.infinite negative)
  | "nan" => some .notANumber
  | _ => readDecimal negative s

end Wide
end SchemaLoom
