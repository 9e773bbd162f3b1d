import BoundQuery.Proofs.Text.Trim
import BoundQuery.Text.Case
import Mathlib.Data.List.Basic

/-!
# Upper case, blanks and parentheses

What the upper-case form of a text keeps, whatever the letters of the text are.

* `of_ascii` : what holds of each ASCII character, value by value, holds of all of them;
* `upper_lowerAscii` : the case of ASCII letters does not show in it;
* `upperChar_of_isBlank` : blanks stay as they are;
* `takeWhile_upperChars` : a parenthesis opens in it where one opens in the text, since no other
  character has one in its upper-case form.
-/

namespace BoundQuery

namespace Text

/-! ### The case of ASCII letters -/

/-- What holds of each ASCII character, value by value, holds of all of them. -/
theorem of_ascii {p : Char → Bool} (hp : ((List.range 128).all fun n => p (Char.ofNat n)) = true)
    {c : Char} (h : c.toNat < 128) : p c = true := by
  have hn := List.all_eq_true.1 hp c.toNat (List.mem_range.2 h)
  rwa [Char.ofNat_toNat] at hn

/-- This lower case leaves every character beyond ASCII alone. -/
theorem toLower_of_le {c : Char} (h : 128 ≤ c.toNat) : c.toLower = c := by
  have hnot : ¬ (c.val ≥ 'A'.val ∧ c.val ≤ 'Z'.val) := by
    rintro ⟨-, hle⟩
    have hlast : c.toNat ≤ 90 := UInt32.le_iff_toNat_le.1 hle
    omega
  exact dif_neg hnot

theorem isBlank_toLower (c : Char) : isBlank c.toLower = isBlank c := by
  rcases Nat.lt_or_ge c.toNat 128 with h | h
  · exact of_decide_eq_true
      (of_ascii (p := fun c => isBlank c.toLower = isBlank c) (by decide +kernel) h)
  · rw [toLower_of_le h]

theorem upperChar_toLower (c : Char) : upperChar c.toLower = upperChar c := by
  rcases Nat.lt_or_ge c.toNat 128 with h | h
  · exact of_decide_eq_true
      (of_ascii (p := fun c => upperChar c.toLower = upperChar c) (by decide +kernel) h)
  · rw [toLower_of_le h]

theorem lowerAscii_eq_iff {s t : String} :
    lowerAscii s = lowerAscii t ↔ s.toList.map Char.toLower = t.toList.map Char.toLower := by
  rw [← String.toList_inj, lowerAscii, String.toList_map, lowerAscii, String.toList_map]

/-- The case of ASCII letters does not show in the upper-case form. -/
theorem upper_lowerAscii (s : String) : upper (lowerAscii s) = upper s := by
  rw [upper, lowerAscii, String.toList_map, List.flatMap_map, upper]
  congr 2
  exact funext upperChar_toLower

theorem trim_lowerAscii (s : String) : trim (lowerAscii s) = lowerAscii (trim s) := by
  apply String.toList_injective
  have hblank : isBlank ∘ Char.toLower = isBlank := funext isBlank_toLower
  rw [toList_trim, lowerAscii, String.toList_map, lowerAscii, String.toList_map, toList_trim,
    trimChars, trimStartChars, trimEndChars, List.dropWhile_map, ← List.map_reverse,
    List.dropWhile_map, ← List.map_reverse, hblank, trimChars, trimStartChars, trimEndChars]

/-! ### Blanks -/

theorem upperChar_of_isBlank {c : Char} (h : isBlank c = true) : upperChar c = [c] :=
  of_decide_eq_true (of_isBlank (p := fun c => upperChar c = [c]) (by decide +kernel) h)

theorem upperChars_of_blank {cs : List Char} (h : ∀ c ∈ cs, isBlank c = true) :
    cs.flatMap upperChar = cs := by
  rw [List.flatMap_congr fun c hc => upperChar_of_isBlank (h c hc), List.flatMap_singleton']

/-! ### Parentheses -/

/-- The image under a list of runs lies in the image of one of them. -/
theorem CaseRun.exists_of_image?_eq_some {n image : Nat} {runs : List CaseRun}
    (h : CaseRun.image? n runs = some image) :
    ∃ run ∈ runs, run.first ≤ n ∧ image = Int.toNat (n + run.shift) := by
  induction runs with
  | nil => cases h
  | cons run rest ih =>
    unfold image? at h
    split_ifs at h with hlow hin
    · exact ⟨run, List.mem_cons_self, Nat.le_of_not_lt hlow, (Option.some.inj h).symm⟩
    · obtain ⟨other, hmem, hother⟩ := ih h
      exact ⟨other, List.mem_cons_of_mem _ hmem, hother⟩

theorem ofNat_ne_open {n : Nat} (h : 40 < n) : Char.ofNat n ≠ '(' := by
  intro hopen
  by_cases hn : n.isValidChar
  · have hvalue : (Char.ofNat n).toNat = n := by rw [Char.ofNat, dif_pos hn]; rfl
    rw [hopen] at hvalue
    exact absurd hvalue (Nat.ne_of_lt h)
  · rw [Char.ofNat, dif_neg hn] at hopen
    cases hopen

/-- No image in the tables is a parenthesis. -/
theorem open_not_mem_mapCase {c : Char} (h : c ≠ '(') :
    '(' ∉ mapCase upperRuns upperExpansions c := by
  unfold mapCase
  split
  next image hlookup =>
    obtain ⟨front, back, hsplit, -⟩ := List.lookup_eq_some_iff.1 hlookup
    have hall : ∀ e ∈ upperExpansions, '(' ∉ e.2.map Char.ofNat := by decide +kernel
    exact hall (_, image) (hsplit ▸ List.mem_append_right _ List.mem_cons_self)
  next =>
    split
    next image himage =>
      obtain ⟨run, hrun, hlow, rfl⟩ := CaseRun.exists_of_image?_eq_some himage
      have hall : ∀ run ∈ upperRuns, 40 < run.first + run.shift := by decide +kernel
      have hfar := hall run hrun
      exact fun hmem => ofNat_ne_open (by omega) (List.mem_singleton.1 hmem).symm
    next => simpa using h.symm

theorem open_not_mem_upperChar {c : Char} (h : c ≠ '(') : '(' ∉ upperChar c := by
  rcases Nat.lt_or_ge c.toNat 128 with hc | hc
  · have hall := of_ascii (p := fun c => c ≠ '(' → '(' ∉ upperChar c) (by decide +kernel) hc
    exact of_decide_eq_true hall h
  · rw [upperChar, if_neg (Nat.not_lt.2 hc)]
    exact open_not_mem_mapCase h

/-- A parenthesis opens in the upper-case form where one opens in the text. -/
theorem takeWhile_upperChars (cs : List Char) :
    (cs.flatMap upperChar).takeWhile (· ≠ '(') = (cs.takeWhile (· ≠ '(')).flatMap upperChar := by
  induction cs with
  | nil => rfl
  | cons c cs ih =>
    rw [List.flatMap_cons]
    by_cases h : c = '('
    · subst h
      rfl
    · have hpass : ∀ d ∈ upperChar c, decide (d ≠ '(') = true := fun d hd =>
        decide_eq_true fun hopen => open_not_mem_upperChar h (hopen ▸ hd)
      rw [List.takeWhile_append_of_pos hpass, ih, List.takeWhile_cons_of_pos (by simpa using h),
        List.flatMap_cons]

end Text

end BoundQuery
