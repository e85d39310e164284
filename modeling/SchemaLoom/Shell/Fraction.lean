import SchemaLoom.Number.Rounded
import SchemaLoom.Number.Wide
import SchemaLoom.Shell.Arithmetic

/-!
# Fractions

How arguments are read as numbers with a point. They may have an exponent, be
written in base sixteen with a power of two, or be one of the words for what is
no finite number. As much of a text is read as is a number.

The forms are those that C gives for reading a floating number from a text,
which POSIX takes over for the arguments of `printf`.
-/

namespace SchemaLoom.Shell

/-- A number with its sign, which infinities and what is no number have as well. -/
structure Fraction where
  negative : Bool
  size : Wide
  deriving Repr

/-- What was read of a text: the number, what follows it, and whether the number
is too great, or so small that digits are lost. -/
structure ReadFraction where
  value : Fraction
  rest : List Char
  isOutOfRange : Bool := false

namespace Fraction

/-- The exponent behind a letter, and what follows it; without digits there is
none. -/
def readExponent (letter : Char) (s : List Char) : Int × List Char :=
  match s with
  | c :: rest =>
    if c.toLower = letter then
      let (negative, digits) := Wide.cutSign rest
      if digits.head?.any Char.isDigit then
        let (n, after) := Arithmetic.digits 10 digits
        (if negative then -n else n, after)
      else (0, s)
    else (0, s)
  | [] => (0, [])

/-- The digits in front with a point among them: all of them as one number, how
many are behind the point, and what follows. None if there is no digit. -/
def readDigits? (base : Nat) (s : List Char) : Option (Nat × Nat × List Char) :=
  let isDigit (c : Char) : Bool := (Arithmetic.digit? base c).isSome
  let whole := s.takeWhile isDigit
  let (fraction, rest) :=
    match s.dropWhile isDigit with
    | '.' :: rest => (rest.takeWhile isDigit, rest.dropWhile isDigit)
    | rest => ([], rest)
  if whole = [] && fraction = [] then none
  else some ((Arithmetic.digits base (whole ++ fraction)).1, fraction.length, rest)

/-- The number nearest to a quotient. It is out of range where it is infinite,
or where digits are lost since it is too small. -/
def nearest (numerator denominator : Nat) : Wide × Bool :=
  match Binary64.ofRatio? false numerator denominator with
  | none => (.infinite false, true)
  | some x =>
    let isExact := numerator * Binary64.unitsPerOne = x.units * denominator
    (.finite x, x.units < Binary64.leastNormal && !isExact)

/-- The number nearest to `digits * base ^ exponent`, where so many digits are
before the point at most. Beyond some exponents the answer is known without the
power. -/
def scaled (base digits places : Nat) (exponent : Int) : Wide × Bool :=
  if digits = 0 then (.finite (.zero false), false)
  else if 5000 < exponent then (.infinite false, true)
  else if exponent + places < -5000 then (.finite (.zero false), true)
  else if 0 ≤ exponent then nearest (digits * Nat.pow base exponent.toNat) 1
  else nearest digits (Nat.pow base exponent.natAbs)

/-- The number behind a sign and what follows it. None if there is no number. -/
def readSize? (s : List Char) : Option (Wide × Bool × List Char) :=
  let lower := s.map Char.toLower
  let startsWith (word : String) : Bool := word.toList.isPrefixOf lower
  if startsWith "infinity" then some (.infinite false, false, s.drop 8)
  else if startsWith "inf" then some (.infinite false, false, s.drop 3)
  else if startsWith "nan" then
    let rest := s.drop 3
    let isNote (c : Char) : Bool := c.isAlphanum || c = '_'
    let after : List Char :=
      match rest with
      | '(' :: inner =>
        match inner.dropWhile isNote with
        | ')' :: after => after
        | _ => rest
      | rest => rest
    some (.notANumber, false, after)
  else
    let hexadecimal? := if startsWith "0x" then readDigits? 16 (s.drop 2) else none
    match hexadecimal? with
    | some (digits, behind, rest) =>
      let (exponent, rest) := readExponent 'p' rest
      let (size, isOutOfRange) := scaled 2 digits (4 * s.length) (exponent - 4 * behind)
      some (size, isOutOfRange, rest)
    | none =>
      (readDigits? 10 s).map fun (digits, behind, rest) =>
        let (exponent, rest) := readExponent 'e' rest
        let (size, isOutOfRange) := scaled 10 digits s.length (exponent - behind)
        (size, isOutOfRange, rest)

/-- Reads as much of a text as is a number. None if nothing is. -/
def read? (s : List Char) : Option ReadFraction :=
  let isBlank (c : Char) : Bool := c = ' ' || (9 ≤ c.toNat && c.toNat ≤ 13)
  let (negative, s) := Wide.cutSign (s.dropWhile isBlank)
  (readSize? s).map fun (size, isOutOfRange, rest) => ⟨⟨negative, size⟩, rest, isOutOfRange⟩

def ofNat (n : Nat) : Fraction := ⟨false, .finite (.ofInt n)⟩

end Fraction
end SchemaLoom.Shell
