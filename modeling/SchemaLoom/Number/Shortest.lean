import SchemaLoom.Number.Binary64

/-!
# The shortest decimal of a binary64 number

Of the decimals that round to a given number, those with the fewest digits are
taken and of those the one nearest to it. Grids of one to seventeen digits are
tried in turn; on each grid only the two neighbours of the number can be
nearest. Writing the digits down with a point or an exponent is left to a
`DecimalStyle`.

The styles differ in where an exponent begins to be written and in what stands
behind a whole number.
-/

namespace SchemaLoom

structure Decimal where
  digits : Nat
  exponent : Int
  deriving DecidableEq, Repr

namespace Binary64

/-- The interval of magnitudes that round to a magnitude, in quarters of a unit,
and whether its ends belong to it. -/
structure Interval where
  low : Nat
  high : Nat
  closed : Bool

/-- Halfway to both neighbours; the ends belong to the number with the even
significand. Below a power of two the neighbour is at half the distance. -/
def Interval.around (units : Nat) : Interval :=
  let step := spacing units
  let below := if 1 < step && units = Nat.pow 2 (bitLength units - 1) then step else 2 * step
  ⟨4 * units - below, 4 * units + 2 * step, units / step % 2 = 0⟩

def Interval.holds (i : Interval) (numerator denominator : Nat) : Bool :=
  let low := i.low * denominator
  let high := i.high * denominator
  if i.closed then low ≤ numerator && numerator ≤ high
  else low < numerator && numerator < high

def leadingPower (units : Nat) : Int :=
  (Nat.toDigits 10 (units * Nat.pow 10 330 / unitsPerOne)).length - 331

/-- The decimal nearest to the magnitude on the grid of `10 ^ exponent`, if it
rounds to the magnitude again. -/
def onGrid? (units : Nat) (exponent : Int) : Option Decimal :=
  let scale := Nat.pow 10 exponent.natAbs
  -- one step of the grid is `up / down` quarters of a unit
  let up := if 0 ≤ exponent then scale * (4 * unitsPerOne) else 4 * unitsPerOne
  let down := if 0 ≤ exponent then 1 else scale
  let below := 4 * units * down / up
  let gap := 2 * (4 * units * down % up)
  let interval := Interval.around units
  let nearer := if gap < up then below else if up < gap then below + 1
    else if below % 2 = 0 then below else below + 1
  let other := if nearer = below then below + 1 else below
  if interval.holds (nearer * up) down then some ⟨nearer, exponent⟩
  else if interval.holds (other * up) down then some ⟨other, exponent⟩
  else none

/-- The shortest decimal that rounds to the number, found by trying ever finer
grids; zero is a single zero. -/
def shortest (x : Binary64) : Decimal :=
  if x.units = 0 then ⟨0, 0⟩
  else
    let top := leadingPower x.units
    ((List.range 17).findSome? fun (n : Nat) => onGrid? x.units (top - n)).getD ⟨x.units, -1074⟩

end Binary64

/-- How the digits of a decimal are laid out. Positional notation is used if the
point stands right of the lowest place and at most at the highest, and an
exponent elsewhere. A whole number may keep a point with a zero behind it. -/
structure DecimalStyle where
  lowest : Option Int
  highest : Option Int
  keepsPoint : Bool

namespace Decimal

/-- The digits without the zeros at their end, and their number of places left
of the point. -/
def significand (d : Decimal) : List Char × Int :=
  let digits := Nat.toDigits 10 d.digits
  let kept := (digits.reverse.dropWhile (· == '0')).reverse
  if kept = [] then (['0'], 1) else (kept, digits.length + d.exponent)

def positional (digits : List Char) (places : Int) (keepsPoint : Bool) : List Char :=
  if places ≤ 0 then ['0', '.'] ++ List.replicate (-places).toNat '0' ++ digits
  else if places < digits.length then
    digits.take places.toNat ++ '.' :: digits.drop places.toNat
  else
    digits ++ List.replicate (places.toNat - digits.length) '0' ++
      (if keepsPoint then ['.', '0'] else [])

def scientific (digits : List Char) (places : Int) : List Char :=
  let power := places - 1
  let fraction := digits.drop 1
  digits.take 1 ++ (if fraction = [] then [] else '.' :: fraction) ++
    ['e', if power < 0 then '-' else '+'] ++ Nat.toDigits 10 power.natAbs

def toChars (style : DecimalStyle) (d : Decimal) : List Char :=
  let (digits, places) := d.significand
  if style.lowest.all (· < places) && style.highest.all (places ≤ ·) then
    positional digits places style.keepsPoint
  else scientific digits places

end Decimal

def Binary64.toChars (style : DecimalStyle) (x : Binary64) : List Char :=
  (if x.negative then ['-'] else []) ++ x.shortest.toChars style

end SchemaLoom
