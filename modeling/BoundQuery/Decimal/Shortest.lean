import BoundQuery.Decimal.Double

/-!
# The shortest decimal that reads back

* `Digits`: a decimal number, `value * 10 ^ exponent`.
* `Double.shortest`: of the decimals that round to a double, one with the fewest digits, and of
  those the nearest; a `Tie` says which of two equally near ones is taken.
-/

namespace BoundQuery

/-- A nonnegative decimal number: `value * 10 ^ exponent`. -/
structure Digits where
  /-- The digits, as the number they write. -/
  value : Nat
  /-- The power of ten that scales them. -/
  exponent : Int

/-- Which of two equally near neighbours is taken. -/
inductive Tie where
  /-- The even one. -/
  | toEven
  /-- The greater one. -/
  | up

/-- The number of decimal digits of a natural number. -/
def decimalLength (n : Nat) : Nat := (Nat.toDigits 10 n).length

/-- The exponent of the greatest power of ten that is at most `num / den`, both positive. -/
def decimalOrder (num den : Nat) : Int :=
  if den ≤ num then (decimalLength (num / den) : Int) - 1
  else -(decimalLength ((den - 1) / num) : Int)

/-- The decimal without trailing zeros; `fuel` bounds their number. -/
def Digits.stripZeros : Nat → Digits → Digits
  | 0, d => d
  | fuel + 1, d =>
    if d.value ≠ 0 ∧ d.value % 10 = 0 then stripZeros fuel ⟨d.value / 10, d.exponent + 1⟩ else d

namespace Double

/-- The reals that round to a positive finite double, and the double itself, measured against a
decimal grid: everything is a multiple of one common small unit. -/
structure Interval where
  /-- The lower end. -/
  low : Nat
  /-- The double. -/
  point : Nat
  /-- The upper end. -/
  high : Nat
  /-- The distance between neighbours on the grid. -/
  step : Nat
  /-- Whether the ends round to the double too. -/
  closed : Bool

/-- The interval of a double against the grid of multiples of `10 ^ power`. Below a power of two
the doubles lie twice as close. -/
def interval (x : Double) (power : Int) : Interval :=
  let below := if x.fraction = 0 ∧ 1 < x.biasedExponent then 1 else 2
  let quarter : Int := x.exponent - 2
  let unit := twoTo quarter.toNat * tenTo (-power).toNat
  { low := (4 * x.mantissa - below) * unit
    point := 4 * x.mantissa * unit
    high := (4 * x.mantissa + 2) * unit
    step := tenTo power.toNat * twoTo (-quarter).toNat
    closed := x.mantissa % 2 = 0 }

/-- Whether the grid point number `c` rounds to the double. -/
def Interval.holds (i : Interval) (c : Nat) : Bool :=
  if i.closed then i.low ≤ c * i.step && c * i.step ≤ i.high
  else i.low < c * i.step && c * i.step < i.high

/-- The grid point in the interval that is nearest to the double, if any. -/
def Interval.choose (tie : Tie) (i : Interval) : Option Nat :=
  let lower := i.point / i.step
  let upper := lower + 1
  match i.holds lower, i.holds upper with
  | false, false => none
  | true, false => some lower
  | false, true => some upper
  | true, true =>
    let down := i.point - lower * i.step
    let up := upper * i.step - i.point
    if down < up then some lower
    else if up < down then some upper
    else match tie with
      | .toEven => if lower % 2 = 0 then some lower else some upper
      | .up => some upper

/-- The first hit on the grids of `count`, `count + 1`, … digits, where `order` is the decimal
order of the double. Seventeen digits always suffice. -/
def shortestFrom (tie : Tie) (x : Double) (order : Int) : Nat → Nat → Digits
  | 0, _ => ⟨0, 0⟩
  | fuel + 1, count =>
    let power := order + 1 - count
    match (x.interval power).choose tie with
    | some c => (Digits.mk c power).stripZeros 20
    | none => shortestFrom tie x order fuel (count + 1)

/-- The shortest decimal that rounds to the magnitude of a finite double. -/
def shortest (tie : Tie) (x : Double) : Digits :=
  if x.isZero then ⟨0, 0⟩
  else shortestFrom tie x (decimalOrder x.ratio.1 x.ratio.2) 17 1

end Double

end BoundQuery
