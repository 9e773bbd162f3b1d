import BoundQuery.Decimal.Shortest

/-!
# Written forms of a double

* `Double.data`: the form in data texts. Positional from `0.00001` up to sixteen digits before the
  point, always with a fraction; scientific with a signed exponent otherwise.
* `Double.plain`: the form in messages. Always positional, a fraction only where there is one.
-/

namespace BoundQuery

/-- `n` zeros. -/
def zeros (n : Nat) : List Char := List.replicate n '0'

namespace Digits

/-- The digits as characters. -/
def chars (d : Digits) : List Char := Nat.toDigits 10 d.value

/-- The power of ten of the first digit. -/
def order (d : Digits) : Int := d.exponent + d.chars.length - 1

/-- The digits before the point of the positional form. -/
def whole (d : Digits) : List Char :=
  let before := d.order + 1
  if before ≤ 0 then ['0']
  else d.chars.take before.toNat ++ zeros (before.toNat - d.chars.length)

/-- The digits after the point of the positional form. -/
def fraction (d : Digits) : List Char :=
  let before := d.order + 1
  if before ≤ 0 then zeros (-before).toNat ++ d.chars else d.chars.drop before.toNat

/-- The scientific form: one digit before the point, a fraction only where there is one, and an
exponent that always bears a sign. -/
def scientific (d : Digits) : List Char :=
  let tail := d.chars.drop 1
  d.chars.take 1 ++ (if tail.isEmpty then [] else '.' :: tail)
    ++ ['e', if 0 ≤ d.order then '+' else '-'] ++ Nat.toDigits 10 d.order.natAbs

end Digits

namespace Double

/-- The sign of a written double. -/
def signChars (x : Double) : List Char := if x.isNegative then ['-'] else []

/-- The form of a finite double in data texts. -/
def data (x : Double) : String :=
  let d := x.shortest .toEven
  let body :=
    if -5 ≤ d.order ∧ d.order < 16 then
      d.whole ++ '.' :: (if d.fraction.isEmpty then ['0'] else d.fraction)
    else d.scientific
  String.ofList (x.signChars ++ body)

/-- The form of any double in messages. -/
def plain (x : Double) : String :=
  if x.isNaN then "NaN"
  else if !x.isFinite then if x.isNegative then "-inf" else "inf"
  else
    let d := x.shortest .up
    let body := d.whole ++ if d.fraction.isEmpty then [] else '.' :: d.fraction
    String.ofList (x.signChars ++ body)

end Double

end BoundQuery
