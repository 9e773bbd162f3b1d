import BoundQuery.Decimal.Double
import BoundQuery.Text.Letter

/-!
# Numbers written as text

* `integer?`: an optional sign and ASCII digits.
* `Double.ofText?`: a decimal or one of the words for infinities and NaN, rounded correctly.
* `Double.scaled?`: the rounding of number literals in data texts, where the digits are first
  rounded as an integer and then scaled by a power of ten.
-/

namespace BoundQuery

open Text

/-- Splits an optional sign off a text: whether it is a minus, and the rest. -/
def splitSign : List Char → Bool × List Char
  | '-' :: rest => (true, rest)
  | '+' :: rest => (false, rest)
  | cs => (false, cs)

/-- The number written by one or more ASCII digits. -/
def digits? (cs : List Char) : Option Nat :=
  if cs.isEmpty || !cs.all Char.isDigit then none else some (natOfDigits cs)

/-- The integer written by an optional sign and one or more ASCII digits. -/
def integer? (cs : List Char) : Option Int :=
  let (negative, rest) := splitSign cs
  (digits? rest).map fun n => if negative then -(n : Int) else n

/-- The integer that a text writes, if it fits 64 signed bits. -/
def int64? (cs : List Char) : Option Int64 :=
  (integer? cs).bind int64OfInt?

/-- The number that a text of digits writes after an optional plus sign, if it fits 64 bits. -/
def uint64? (cs : List Char) : Option UInt64 :=
  (digits? (match cs with | '+' :: rest => rest | _ => cs)).bind uint64OfNat?

namespace Double

/-- The double nearest to `value * 10 ^ power`. Far outside the range of doubles the power is not
computed. -/
def ofDecimal (negative : Bool) (value : Nat) (power : Int) : Double :=
  let length : Int := (Nat.toDigits 10 value).length
  if value = 0 then zero negative
  else if 310 < length + power then infinity negative
  else if length + power < -330 then zero negative
  else if 0 ≤ power then nearest negative (value * tenTo power.toNat) 1
  else nearest negative value (tenTo (-power).toNat)

/-- The exponent part of a decimal: nothing, or a letter `e`, an optional sign and digits. -/
def exponentPart? : List Char → Option Int
  | [] => some 0
  | c :: rest => if c = 'e' ∨ c = 'E' then integer? rest else none

/-- A decimal without a sign: digits with an optional point on either side of them, then an
optional exponent. -/
def unsigned? (negative : Bool) (cs : List Char) : Option Double :=
  let whole := cs.takeWhile Char.isDigit
  let rest := cs.dropWhile Char.isDigit
  let (fraction, rest) :=
    match rest with
    | '.' :: r => (r.takeWhile Char.isDigit, r.dropWhile Char.isDigit)
    | _ => ([], rest)
  if whole.isEmpty && fraction.isEmpty then none
  else
    (exponentPart? rest).map fun power =>
      ofDecimal negative (natOfDigits (whole ++ fraction)) (power - fraction.length)

/-- The double that a text writes: a decimal, or `inf`, `infinity` or `nan` in any case. -/
def ofText? (cs : List Char) : Option Double :=
  let (negative, rest) := splitSign cs
  match String.ofList (rest.map Char.toLower) with
  | "inf" | "infinity" => some (infinity negative)
  | "nan" => some nan
  | _ => unsigned? negative rest

/-- The finite double that a text writes. -/
def finite? (cs : List Char) : Option Double :=
  (ofText? cs).filter isFinite

/-- The double nearest to a power of ten. -/
def powerOfTen (n : Nat) : Double := nearest false (tenTo n) 1

/-- A magnitude divided by `10 ^ power`, three hundred and eight decades at a time, each division
rounded by itself. -/
def divideDecades (x : Double) (power : Nat) : Double :=
  if x.isZero then x
  else if power ≤ 308 then x.dividedBy (powerOfTen power)
  else divideDecades (x.dividedBy (powerOfTen 308)) (power - 308)
termination_by power

/-- The value of a number literal whose digits, as far as they fit 64 bits, write `significand`:
that integer is rounded to a double and then scaled by `10 ^ power` with a further rounding. A
literal beyond the greatest double has no value. -/
def scaled? (negative : Bool) (significand : Nat) (power : Int) : Option Double :=
  let x := nearest false significand 1
  if power < 0 then some ((divideDecades x (-power).toNat).withSign negative)
  else if x.isZero then some (zero negative)
  else if 308 < power then none
  else
    let y := x.times (powerOfTen power.toNat)
    if y.isFinite then some (y.withSign negative) else none

end Double

end BoundQuery
