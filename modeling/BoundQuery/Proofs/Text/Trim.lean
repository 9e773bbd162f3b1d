import BoundQuery.Text.Blank
import Mathlib.Data.List.TakeWhile

/-!
# What trimming cuts off

* `of_isBlank` : what holds of each listed blank holds of every blank;
* `exists_trimChars` : a text is what is left of it, between blanks;
* `trimChars_of_ends` : a text is trimmed down to what begins and ends without a blank;
* `trimChars_padded` : blanks that are put around a text make no difference, so trimming twice makes
  none either (`trimChars_trimChars`).
-/

namespace BoundQuery

open Text

theorem of_isBlank {p : Char → Bool}
    (hp : (whiteSpace.all fun r =>
      (List.range' r.1 (r.2 + 1 - r.1)).all fun n => p (Char.ofNat n)) = true)
    {c : Char} (h : isBlank c = true) : p c = true := by
  have hn := CodeRanges.all_of_mem (p := fun n => p (Char.ofNat n)) h hp
  rwa [Char.ofNat_toNat] at hn

/-- What is cut off at the end of a text has the property by which it is cut off. -/
theorem exists_dropEnd (p : Char → Bool) (cs : List Char) :
    ∃ tail, (∀ c ∈ tail, p c = true) ∧ cs = (cs.reverse.dropWhile p).reverse ++ tail := by
  refine ⟨(cs.reverse.takeWhile p).reverse, fun c hc => ?_, ?_⟩
  · exact List.mem_takeWhile_imp (List.mem_reverse.1 hc)
  · rw [← List.reverse_append, List.takeWhile_append_dropWhile, List.reverse_reverse]

/-- What is cut off from a text are blanks. -/
theorem exists_trimChars (cs : List Char) :
    ∃ front back, (∀ c ∈ front ++ back, isBlank c = true) ∧
      cs = front ++ trimChars cs ++ back := by
  obtain ⟨back, hback, hsplit⟩ := exists_dropEnd isBlank (trimStartChars cs)
  refine ⟨cs.takeWhile isBlank, back, fun c hc => ?_, ?_⟩
  · rcases List.mem_append.1 hc with hc | hc
    · exact List.mem_takeWhile_imp hc
    · exact hback c hc
  · have htrim : trimChars cs ++ back = cs.dropWhile isBlank := hsplit.symm
    rw [List.append_assoc, htrim, List.takeWhile_append_dropWhile]

theorem trimStartChars_append {front : List Char} (h : ∀ c ∈ front, isBlank c = true)
    (cs : List Char) : trimStartChars (front ++ cs) = trimStartChars cs :=
  List.dropWhile_append_of_pos h

theorem trimEndChars_append {back : List Char} (h : ∀ c ∈ back, isBlank c = true)
    (cs : List Char) : trimEndChars (cs ++ back) = trimEndChars cs := by
  rw [trimEndChars, List.reverse_append,
    List.dropWhile_append_of_pos fun c hc => h c (List.mem_reverse.1 hc), trimEndChars]

/-- Blanks around a text make no difference. -/
theorem trimChars_padded {front back : List Char} (hfront : ∀ c ∈ front, isBlank c = true)
    (hback : ∀ c ∈ back, isBlank c = true) (cs : List Char) :
    trimChars (front ++ cs ++ back) = trimChars cs := by
  rw [List.append_assoc, trimChars, trimStartChars_append hfront, trimStartChars,
    List.dropWhile_append]
  split
  next hnil =>
    -- Nothing but blanks: all of it is cut off at the start.
    rw [List.isEmpty_iff] at hnil
    rw [trimChars, trimStartChars, hnil, List.dropWhile_eq_nil_iff.2 hback]
  next => exact trimEndChars_append hback _

theorem trimChars_trimChars (cs : List Char) : trimChars (trimChars cs) = trimChars cs := by
  obtain ⟨front, back, hends, hsplit⟩ := exists_trimChars cs
  have hpadded := trimChars_padded (fun c hc => hends c (List.mem_append_left _ hc))
    (fun c hc => hends c (List.mem_append_right _ hc)) (trimChars cs)
  rwa [← hsplit, eq_comm] at hpadded

theorem trim_trim (s : String) : trim (trim s) = trim s := by
  rw [trim, toList_trim, trimChars_trimChars, trim]

/-- A text is trimmed down to what begins and ends without a blank. -/
theorem trimChars_of_ends {front back cs : List Char} {first last : Char}
    (hfront : ∀ c ∈ front, isBlank c = true) (hback : ∀ c ∈ back, isBlank c = true)
    (hhead : cs.head? = some first) (hfirst : isBlank first = false)
    (hend : cs.getLast? = some last) (hlast : isBlank last = false) :
    trimChars (front ++ cs ++ back) = cs := by
  obtain ⟨rest, rfl⟩ : ∃ rest, cs = first :: rest := by
    cases cs with
    | nil => cases hhead
    | cons c rest => exact ⟨rest, by rw [Option.some.inj hhead]⟩
  have hstart : trimStartChars (first :: rest) = first :: rest :=
    List.dropWhile_cons_of_neg (by simp [hfirst])
  obtain ⟨init, hinit⟩ := List.getLast?_eq_some_iff.1 hend
  rw [trimChars_padded hfront hback, trimChars, hstart, trimEndChars, hinit, List.reverse_append,
    List.reverse_singleton, List.singleton_append, List.dropWhile_cons_of_neg (by simp [hlast]),
    List.reverse_cons, List.reverse_reverse]

end BoundQuery
