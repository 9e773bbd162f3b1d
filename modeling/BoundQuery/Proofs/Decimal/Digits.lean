import BoundQuery.Decimal.Reader
import BoundQuery.Proofs.Text.Trim

/-!
# Numbers in decimal digits

* `decimal` : a number in digits, with some zeros in front;
* `natOfDigits_decimal` : **the digits write the number**, whatever the number of zeros;
* `int64OfInt?_toInt`, `uint64OfNat?_toNat` : a number of 64 bits fits 64 bits;
* `takeWhile_decimal`, `dropWhile_decimal` : a reader of digits stops where the number ends.
-/

namespace BoundQuery

open Text

/-- A number in digits, with `zeros` zeros in front. -/
def decimal (zeros n : Nat) : List Char := List.replicate zeros '0' ++ Nat.toDigits 10 n

/-- Whether a text does not go on with a digit. -/
def NoDigit (cs : List Char) : Prop := ∀ c, cs.head? = some c → c.isDigit = false

theorem NoDigit.cons {c : Char} {cs : List Char} (h : c.isDigit = false) : NoDigit (c :: cs) := by
  rintro d hd
  rwa [← Option.some.inj hd]

theorem isDigit_of_mem_decimal {zeros n : Nat} {c : Char} (h : c ∈ decimal zeros n) :
    c.isDigit = true := by
  rcases List.mem_append.1 h with h | h
  · rw [List.eq_of_mem_replicate h]
    rfl
  · exact Nat.isDigit_of_mem_toDigits (by decide) (by decide) h

@[simp] theorem decimal_ne_nil (zeros n : Nat) : decimal zeros n ≠ [] :=
  fun h => Nat.toDigits_ne_nil (List.append_eq_nil_iff.1 h).2

theorem natOfDigits_eq (cs : List Char) : natOfDigits cs = Nat.ofDigitChars 10 cs 0 := by
  unfold natOfDigits Nat.ofDigitChars
  congr 1
  funext n c
  rw [Nat.mul_comm]
  rfl

/-- The digits write the number. -/
@[simp] theorem natOfDigits_decimal (zeros n : Nat) : natOfDigits (decimal zeros n) = n := by
  rw [natOfDigits_eq, decimal, Nat.ofDigitChars_append, Nat.ofDigitChars_replicate_zero,
    Nat.mul_zero, Nat.ofDigitChars_ten_toDigits]

theorem digits?_decimal (zeros n : Nat) : digits? (decimal zeros n) = some n := by
  have hne : (decimal zeros n).isEmpty = false := by simp
  have hall : (decimal zeros n).all Char.isDigit = true :=
    List.all_eq_true.2 fun c hc => isDigit_of_mem_decimal hc
  simp only [digits?, hne, hall, Bool.not_true, Bool.or_self, Bool.false_eq_true, if_false,
    natOfDigits_decimal]

/-! ### Numbers of 64 bits -/

theorem int64OfInt?_toInt (n : Int64) : int64OfInt? n.toInt = some n := by
  have hle := n.le_toInt
  have hlt := n.toInt_lt
  rw [int64OfInt?, if_pos (by omega), Int64.ofInt_toInt]

theorem uint64OfNat?_toNat (n : UInt64) : uint64OfNat? n.toNat = some n := by
  have hlt := n.toNat_lt
  rw [uint64OfNat?, if_pos (by omega), UInt64.ofNat_toNat]

/-! ### Where a number ends -/

section

variable {cs : List Char} (h : NoDigit cs)

include h

theorem NoDigit.takeWhile_eq : cs.takeWhile Char.isDigit = [] := by
  cases cs with
  | nil => rfl
  | cons c cs => rw [List.takeWhile_cons_of_neg]; simp [h c rfl]

theorem NoDigit.dropWhile_eq : cs.dropWhile Char.isDigit = cs := by
  cases cs with
  | nil => rfl
  | cons c cs => rw [List.dropWhile_cons_of_neg]; simp [h c rfl]

theorem takeWhile_decimal (zeros n : Nat) :
    (decimal zeros n ++ cs).takeWhile Char.isDigit = decimal zeros n := by
  rw [List.takeWhile_append_of_pos fun c hc => isDigit_of_mem_decimal hc, h.takeWhile_eq,
    List.append_nil]

theorem dropWhile_decimal (zeros n : Nat) :
    (decimal zeros n ++ cs).dropWhile Char.isDigit = cs := by
  rw [List.dropWhile_append_of_pos fun c hc => isDigit_of_mem_decimal hc, h.dropWhile_eq]

end

/-! ### Blanks around a number -/

theorem isBlank_of_isDigit {c : Char} (h : c.isDigit = true) : isBlank c = false := by
  rw [← Bool.not_eq_true]
  intro hblank
  have hnot := of_isBlank (p := fun c => !c.isDigit) (by decide +kernel) hblank
  rw [h] at hnot
  cases hnot

end BoundQuery
