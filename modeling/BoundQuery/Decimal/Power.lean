/-!
# Powers and 64-bit integers

* `twoTo`, `tenTo`: powers of two and of ten.
* `int64OfInt?`, `uint64OfNat?`: an integer as one of 64 bits, if it fits.
-/

namespace BoundQuery

/-- A power of two. -/
def twoTo (n : Nat) : Nat := Nat.pow 2 n

/-- A power of ten. -/
def tenTo (n : Nat) : Nat := Nat.pow 10 n

/-- An integer as one of 64 signed bits, if it fits. -/
def int64OfInt? (i : Int) : Option Int64 :=
  if -9223372036854775808 ≤ i ∧ i ≤ 9223372036854775807 then some (Int64.ofInt i) else none

/-- A number as one of 64 bits, if it fits. -/
def uint64OfNat? (n : Nat) : Option UInt64 :=
  if n ≤ 18446744073709551615 then some (UInt64.ofNat n) else none

end BoundQuery
