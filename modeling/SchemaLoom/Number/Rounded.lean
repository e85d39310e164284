import SchemaLoom.Number.Shortest

/-!
# Rounded numbers

A magnitude written with so many digits behind the point, as it is or with an
exponent, in base ten or in base sixteen. The digits are those nearest to the
number, and a tie goes to the even one.

Magnitudes are ratios of whole numbers, so nothing is lost before the digits are
chosen.
-/

namespace SchemaLoom

/-- The digits of a number that is written down, those before and those behind
the point, and the power that they are multiplied by. -/
structure Digits where
  whole : List Char
  fraction : List Char
  exponent : Int := 0
  deriving DecidableEq, Repr

namespace Digits

def ofUnits (base places n : Nat) : Digits :=
  let digits := Nat.toDigits base (n % Nat.pow base places)
  { whole := Nat.toDigits base (n / Nat.pow base places)
    fraction := if places = 0 then [] else List.replicate (places - digits.length) '0' ++ digits }

def trimmed (digits : Digits) : Digits :=
  { digits with fraction := (digits.fraction.reverse.dropWhile (· = '0')).reverse }

end Digits

namespace Binary64

def inPowersOfTen (x : Binary64) (exponent : Int) : Nat :=
  let scale := Nat.pow 10 exponent.natAbs
  if 0 ≤ exponent then roundDiv x.units (unitsPerOne * scale)
  else roundDiv (x.units * scale) unitsPerOne

def fixed (x : Binary64) (places : Nat) : Digits :=
  .ofUnits 10 places (x.inPowersOfTen (-places))

def scientific (x : Binary64) (places : Nat) : Digits :=
  if x.units = 0 then .ofUnits 10 places 0
  else
    let power := leadingPower x.units
    let n := x.inPowersOfTen (power - places)
    if n < Nat.pow 10 (places + 1) then { Digits.ofUnits 10 places n with exponent := power }
    else { Digits.ofUnits 10 places (n / 10) with exponent := power + 1 }

/-- The magnitude with so many significant digits, without an exponent where the
number is neither too great nor too small for them. -/
def significant (x : Binary64) (count : Nat) : Digits × Bool :=
  let long := x.scientific (count - 1)
  if -4 ≤ long.exponent && long.exponent < count then
    (x.fixed (count - 1 - long.exponent).toNat, false)
  else (long, true)

def leastNormal : Nat := Nat.pow 2 52

/-- The magnitude in base sixteen with a power of two, and so many places, or as
many as it takes. The digit before the point is one, or zero for a number that
lacks digits. -/
def hexadecimal (x : Binary64) (places : Option Nat) : Digits :=
  if x.units = 0 then .ofUnits 16 (places.getD 0) 0
  else
    let shift := bitLength x.units - 53
    let power : Int := if x.units < leastNormal then -1022 else (shift : Int) - 1022
    let significand := x.units / Nat.pow 2 shift
    let digits :=
      match places with
      | none => (Digits.ofUnits 16 13 significand).trimmed
      | some places =>
        if places ≤ 13 then .ofUnits 16 places (roundDiv significand (Nat.pow 16 (13 - places)))
        else .ofUnits 16 places (significand * Nat.pow 16 (places - 13))
    { digits with exponent := power }

end Binary64
end SchemaLoom
