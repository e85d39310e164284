/-!
# Finite binary64 numbers

A finite binary64 number is a whole multiple of 2^-1074, its sign kept apart so
that zero has two. Order is the order of those multiples, hence total, and the
two zeros are equal in it. Rounding goes to the nearest multiple with at most 53
significant bits, a tie to the even one.

Only finite numbers are here, since no document holds any other. Reading a
decimal is exact until the one rounding at the end.
-/

namespace SchemaLoom

/-- A finite binary64 number. Its magnitude is counted in units of 2^-1074, and
the sign is kept apart, because zero has one too. -/
structure Binary64 where
  negative : Bool
  units : Nat
  deriving DecidableEq, Repr, Inhabited

namespace Binary64

def unitsPerOne : Nat := Nat.pow 2 1074

def limit : Nat := Nat.pow 2 2098

def toInt (x : Binary64) : Int := if x.negative then -(x.units : Int) else x.units

def bitLength (n : Nat) : Nat := if n = 0 then 0 else n.log2 + 1

/-- The whole number nearest to a quotient. A tie goes to the even neighbour, as
it does everywhere in binary64. -/
def roundDiv (numerator denominator : Nat) : Nat :=
  let quotient := numerator / denominator
  let twice := 2 * (numerator % denominator)
  if twice < denominator then quotient
  else if denominator < twice then quotient + 1
  else if quotient % 2 = 0 then quotient else quotient + 1

/-- The distance, in units, between neighbours of a magnitude of so many units:
one as long as 53 bits are enough, and then twice as much with every further
bit. -/
def spacing (units : Nat) : Nat := Nat.pow 2 (bitLength units - 53)

def nearestUnits (numerator denominator : Nat) : Nat :=
  let step := spacing (numerator / denominator)
  roundDiv numerator (denominator * step) * step

/-- The number nearest to a quotient, unless it is out of range. Rounding may
itself leave the range, so it comes first. -/
def ofRatio? (negative : Bool) (numerator denominator : Nat) : Option Binary64 :=
  let units := nearestUnits (numerator * unitsPerOne) denominator
  if units < limit then some ⟨negative, units⟩ else none

def zero (negative : Bool) : Binary64 := ⟨negative, 0⟩

/-- The number nearest to `digits * 10 ^ exponent`, unless it is out of range.
Beyond 10^400 and below 10^-400 the answer is known without computing the power. -/
def ofDecimal? (negative : Bool) (digits : Nat) (exponent : Int) : Option Binary64 :=
  let places : Int := exponent + (Nat.toDigits 10 digits).length
  if digits = 0 then some (zero negative)
  else if 400 < places then none
  else if places < -400 then some (zero negative)
  else if 0 ≤ exponent then ofRatio? negative (digits * Nat.pow 10 exponent.toNat) 1
  else ofRatio? negative digits (Nat.pow 10 (-exponent).toNat)

/-- The number nearest to an integer of at most 64 bits, which is always in
range. Above 2^53 several integers round to one number. -/
def ofInt (n : Int) : Binary64 :=
  ⟨n < 0, nearestUnits (n.natAbs * unitsPerOne) 1⟩

/-- The number nearest to a power of ten; `exponent` is at most 308, the largest
in range. -/
def powerOfTen (exponent : Nat) : Binary64 :=
  ⟨false, nearestUnits (Nat.pow 10 exponent * unitsPerOne) 1⟩

def mul? (x y : Binary64) : Option Binary64 :=
  let units := nearestUnits (x.units * y.units) unitsPerOne
  if units < limit then some ⟨x.negative, units⟩ else none

def div (x y : Binary64) : Binary64 :=
  ⟨x.negative, nearestUnits (x.units * unitsPerOne) y.units⟩

/-- Divides by a power of ten, in steps that each round if the power itself is
out of range. A number of zero units is left as it is. -/
def divPowerOfTen (x : Binary64) (exponent : Nat) : Binary64 :=
  if exponent ≤ 308 then x.div (powerOfTen exponent)
  else if x.units = 0 then x
  else divPowerOfTen (x.div (powerOfTen 308)) (exponent - 308)
termination_by exponent

/-- Rounds the significand first, then scales it by a power of ten and rounds
again; none if the result is out of range. Long significands may thus miss the
nearest number by one step. -/
def scaled? (negative : Bool) (significand : Nat) (exponent : Int) : Option Binary64 :=
  let x : Binary64 := ⟨negative, nearestUnits (significand * unitsPerOne) 1⟩
  if exponent < 0 then some (x.divPowerOfTen exponent.natAbs)
  else if significand = 0 then some x
  else if 308 < exponent then none
  else x.mul? (powerOfTen exponent.toNat)

def le (x y : Binary64) : Bool := x.toInt ≤ y.toInt

theorem le_iff {x y : Binary64} : x.le y = true ↔ x.toInt ≤ y.toInt := by simp [le]

theorem le_total (x y : Binary64) : x.le y = true ∨ y.le x = true := by
  simp only [le_iff]
  omega

theorem le_trans {x y z : Binary64} (h : x.le y = true) (k : y.le z = true) :
    x.le z = true := by
  simp only [le_iff] at *
  omega

end Binary64
end SchemaLoom
