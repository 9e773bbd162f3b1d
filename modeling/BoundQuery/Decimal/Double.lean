import BoundQuery.Decimal.Power

/-!
# Double precision numbers

A double is its 64 bits; every operation here is exact arithmetic on natural numbers followed by
one rounding.

* `Double`: sign, biased exponent and fraction, packed.
* `Double.nearest`: the double nearest to a ratio, a tie going to the even fraction.
* `Double.times`, `Double.dividedBy`: the rounded product and quotient of magnitudes.
-/

namespace BoundQuery

/-- A binary floating-point number of 64 bits. -/
structure Double where
  /-- One sign bit, eleven bits of biased exponent, fifty-two bits of fraction. -/
  bits : UInt64
deriving DecidableEq

namespace Double

/-- Whether the sign bit is set. -/
def isNegative (x : Double) : Bool := twoTo 63 ≤ x.bits.toNat

/-- The bits without the sign. -/
def magnitudeBits (x : Double) : Nat := x.bits.toNat % twoTo 63

/-- The exponent field as stored. -/
def biasedExponent (x : Double) : Nat := x.magnitudeBits / twoTo 52

/-- The fraction field as stored. -/
def fraction (x : Double) : Nat := x.magnitudeBits % twoTo 52

/-- Neither an infinity nor a NaN. -/
def isFinite (x : Double) : Bool := x.biasedExponent < 2047

/-- Not a number. -/
def isNaN (x : Double) : Bool := x.biasedExponent = 2047 && x.fraction ≠ 0

/-- Whether a finite double is a zero of either sign. -/
def isZero (x : Double) : Bool := x.magnitudeBits = 0

/-- A finite double has the magnitude `mantissa * 2 ^ exponent`. -/
def mantissa (x : Double) : Nat :=
  if x.biasedExponent = 0 then x.fraction else twoTo 52 + x.fraction

/-- The power of two that scales the mantissa. -/
def exponent (x : Double) : Int :=
  if x.biasedExponent = 0 then -1074 else (x.biasedExponent : Int) - 1075

/-- The magnitude of a finite double as a ratio of natural numbers. -/
def ratio (x : Double) : Nat × Nat :=
  if 0 ≤ x.exponent then (x.mantissa * twoTo x.exponent.toNat, 1)
  else (x.mantissa, twoTo (-x.exponent).toNat)

/-- The double with the given sign and magnitude bits. -/
def ofMagnitude (negative : Bool) (magnitude : Nat) : Double :=
  ⟨UInt64.ofNat (magnitude + if negative then twoTo 63 else 0)⟩

/-- Zero of the given sign. -/
def zero (negative : Bool) : Double := ofMagnitude negative 0

/-- Infinity of the given sign. -/
def infinity (negative : Bool) : Double := ofMagnitude negative (2047 * twoTo 52)

/-- The number that is not a number. -/
def nan : Double := ofMagnitude false (2047 * twoTo 52 + twoTo 51)

/-- The integer nearest to `num / den`; a half goes to the even neighbour. -/
def divideRounding (num den : Nat) : Nat :=
  let quotient := num / den
  let rest := num % den
  if 2 * rest < den then quotient
  else if 2 * rest = den ∧ quotient % 2 = 0 then quotient
  else quotient + 1

/-- `num / den` divided by a power of two, as a ratio again. -/
def scaleDown (num den : Nat) (power : Int) : Nat × Nat :=
  if 0 ≤ power then (num, den * twoTo power.toNat) else (num * twoTo (-power).toNat, den)

/-- The exponent of the greatest power of two that is at most `num / den`. -/
def binaryOrder (num den : Nat) : Int :=
  let guess : Int := (num.log2 : Int) - den.log2
  let (n, d) := scaleDown num den guess
  if d ≤ n then guess else guess - 1

/-- The double nearest to `num / den`, where `den` is positive; a tie goes to the even mantissa,
and what rounds to `2 ^ 1024` or more is an infinity. The mantissa is counted in units of the last
place, so a carry out of it moves on to the exponent field by itself. -/
def nearest (negative : Bool) (num den : Nat) : Double :=
  if num = 0 then zero negative
  else
    let unit : Int := max (binaryOrder num den - 52) (-1074)
    let (n, d) := scaleDown num den unit
    let magnitude := (unit + 1074).toNat * twoTo 52 + divideRounding n d
    if 2047 * twoTo 52 ≤ magnitude then infinity negative else ofMagnitude negative magnitude

/-- The rounded product of two magnitudes. -/
def times (x y : Double) : Double :=
  nearest false (x.ratio.1 * y.ratio.1) (x.ratio.2 * y.ratio.2)

/-- The rounded quotient of two magnitudes; the divisor is not zero. -/
def dividedBy (x y : Double) : Double :=
  nearest false (x.ratio.1 * y.ratio.2) (x.ratio.2 * y.ratio.1)

/-- The same magnitude under the given sign. -/
def withSign (negative : Bool) (x : Double) : Double := ofMagnitude negative x.magnitudeBits

/-- The double nearest to an integer. -/
def ofInt (i : Int) : Double := nearest (decide (i < 0)) i.natAbs 1

end Double

end BoundQuery
