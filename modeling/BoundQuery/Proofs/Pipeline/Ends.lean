import BoundQuery.Pipeline.Sanitizer
import BoundQuery.Proofs.Text.Trim

/-!
# What the check cuts off and adds

The check of a statement cuts blanks and semicolons off its ends, and may put a clause behind it.

* `exists_stripped` : **a statement is what is left of it, between blanks and semicolons**;
* `rowCap_chars` : the clause has letters, digits and blanks only.
-/

namespace BoundQuery

open Text

/-- Whether a character is cut off at the end of a statement. -/
def isGap (c : Char) : Bool := isBlank c || c == ';'

/-- What is cut off from a statement. -/
theorem exists_stripped (sql : String) :
    ∃ front back, (∀ c ∈ front ++ back, isGap c = true) ∧
      sql.toList = front ++ (stripped sql).toList ++ back := by
  obtain ⟨front, as, hends, h₁⟩ := exists_trimChars sql.toList
  obtain ⟨bs, hbs, h₂⟩ := exists_dropEnd (· = ';') (trimChars sql.toList)
  obtain ⟨ds, hds, h₃⟩ := exists_dropEnd isBlank
    ((trimChars sql.toList).reverse.dropWhile (· = ';')).reverse
  refine ⟨front, ds ++ bs ++ as, fun c hc => ?_, ?_⟩
  · have hblank : isBlank c = true → isGap c = true := fun h => Bool.or_eq_true_iff.2 (.inl h)
    simp only [List.mem_append] at hc hends
    rcases hc with hc | (hc | hc) | hc
    · exact hblank (hends c (.inl hc))
    · exact hblank (hds c hc)
    · exact Bool.or_eq_true_iff.2 (.inr (by simpa using hbs c hc))
    · exact hblank (hends c (.inr hc))
  · have hmiddle : trimChars sql.toList = (stripped sql).toList ++ (ds ++ bs) := by
      rw [h₂, h₃, stripped, String.toList_ofList, trimEndChars]
      simp only [List.append_assoc]
    rw [hmiddle] at h₁
    simpa only [List.append_assoc] using h₁

/-- The clause has letters, digits and blanks. -/
theorem rowCap_chars (d : Dialect) (limit : Nat) {c : Char} (h : c ∈ (d.rowCap limit).toList) :
    (c.isAlphanum || c == ' ') = true := by
  have hdigits : ∀ c ∈ (toString limit).toList, (c.isAlphanum || c == ' ') = true := by
    intro c hc
    rw [Nat.toString_eq_ofList_toDigits, String.toList_ofList] at hc
    have := Nat.isDigit_of_mem_toDigits (by decide) (by decide) hc
    simp [Char.isAlphanum, this]
  have hword : ∀ (s : String), (s.toList.all fun c => c.isAlphanum || c == ' ') = true →
      ∀ c ∈ s.toList, (c.isAlphanum || c == ' ') = true := fun s hs => List.all_eq_true.1 hs
  cases d <;> simp only [Dialect.rowCap, String.toList_append, List.mem_append] at h
  · rcases h with (h | h) | h
    · exact hword _ (by decide) c h
    · exact hdigits c h
    · exact hword _ (by decide) c h
  all_goals
    rcases h with h | h
    · exact hword _ (by decide) c h
    · exact hdigits c h

end BoundQuery
