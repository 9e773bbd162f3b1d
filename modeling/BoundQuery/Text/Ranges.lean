/-!
# Ranges of code points

* `CodeRanges`: a set of code points as ascending ranges, both ends included.
* `CodeRanges.mem`: whether a code point is in the set; the search stops at the first range
  that lies beyond it.
* `CodeRanges.all_of_mem`: what holds of all code points of a set holds of each of its members.
-/

namespace BoundQuery.Text

/-- A set of code points: ascending, disjoint ranges with both ends included. -/
abbrev CodeRanges := List (Nat × Nat)

/-- Whether the code point `n` lies in one of the ranges. -/
def CodeRanges.mem (n : Nat) : CodeRanges → Bool
  | [] => false
  | (low, high) :: rest =>
    if n < low then false else if n ≤ high then true else CodeRanges.mem n rest

namespace CodeRanges

variable {n : Nat} {ranges : CodeRanges}

theorem exists_of_mem (h : ranges.mem n = true) : ∃ r ∈ ranges, r.1 ≤ n ∧ n ≤ r.2 := by
  induction ranges with
  | nil => cases h
  | cons r rest ih =>
    unfold mem at h
    split at h
    · cases h
    rename_i hlow
    split at h
    · rename_i hhigh
      exact ⟨r, List.mem_cons_self, Nat.le_of_not_lt hlow, hhigh⟩
    · obtain ⟨s, hs, hn⟩ := ih h
      exact ⟨s, List.mem_cons_of_mem _ hs, hn⟩

theorem all_of_mem {p : Nat → Bool} (h : ranges.mem n = true)
    (hp : (ranges.all fun r => (List.range' r.1 (r.2 + 1 - r.1)).all p) = true) : p n = true := by
  obtain ⟨r, hr, hlow, hhigh⟩ := exists_of_mem h
  refine List.all_eq_true.1 (List.all_eq_true.1 hp r hr) n ?_
  rw [List.mem_range'_1]
  omega

end CodeRanges

end BoundQuery.Text
