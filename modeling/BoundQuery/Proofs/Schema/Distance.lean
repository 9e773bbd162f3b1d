import BoundQuery.Schema.Distance
import Mathlib.Data.List.Forall2
import Mathlib.Order.Bounds.Basic
import Mathlib.Order.MinMax

/-!
# The least number of edits

The distance of two texts is computed row by row, one row for each suffix of the first text.  Here it
is tied to what it stands for.

* `Edits` : the ways to turn one text into another, with the number of characters that are inserted,
  deleted or replaced;
* `Distances` : a row that holds the least number of edits to every suffix of a text; each row is
  made from the one below it (`distances_extendRow`);
* `isLeast_editDistance` : **the distance is the least number of edits that turn one text into the
  other.**
-/

namespace BoundQuery

/-- Whether so many edits turn a text into another one: from left to right, a character is kept, or
one is inserted, deleted or replaced. -/
inductive Edits : Nat → List Char → List Char → Prop
  /-- Nothing is left of both. -/
  | nil : Edits 0 [] []
  /-- A character is kept. -/
  | keep (c : Char) {n : Nat} {s t : List Char} (h : Edits n s t) : Edits n (c :: s) (c :: t)
  /-- A character is inserted. -/
  | insert (d : Char) {n : Nat} {s t : List Char} (h : Edits n s t) : Edits (n + 1) s (d :: t)
  /-- A character is deleted. -/
  | delete (c : Char) {n : Nat} {s t : List Char} (h : Edits n s t) : Edits (n + 1) (c :: s) t
  /-- A character is replaced. -/
  | replace (c d : Char) {n : Nat} {s t : List Char} (h : Edits n s t) :
    Edits (n + 1) (c :: s) (d :: t)

/-- The least number of edits that turn a text into another one. -/
def LeastEdits (s t : List Char) (n : Nat) : Prop := IsLeast {k | Edits k s t} n

namespace LeastEdits

variable {s t : List Char} {a b e n : Nat}

theorem nil : ∀ t, LeastEdits [] t t.length
  | [] => ⟨.nil, fun _ _ => Nat.zero_le _⟩
  | d :: t => by
    obtain ⟨hreach, hleast⟩ := nil t
    refine ⟨.insert d hreach, fun k hk => ?_⟩
    cases hk with
    | insert _ h => exact Nat.succ_le_succ (hleast h)

theorem cons_nil (h : LeastEdits s [] n) (c : Char) : LeastEdits (c :: s) [] (n + 1) := by
  refine ⟨.delete c h.1, fun k hk => ?_⟩
  cases hk with
  | delete _ hk => exact Nat.succ_le_succ (h.2 hk)

/-- The last step deletes the first character, inserts the second, or takes one for the other. -/
theorem cons_cons {c d : Char} (hdelete : LeastEdits s (d :: t) a)
    (hinsert : LeastEdits (c :: s) t b) (hreplace : LeastEdits s t e) :
    LeastEdits (c :: s) (d :: t) (min (min (a + 1) (b + 1)) (e + if c = d then 0 else 1)) := by
  constructor
  · have hedits : Edits (e + if c = d then 0 else 1) (c :: s) (d :: t) := by
      split
      next h => exact h ▸ .keep c hreplace.1
      next => exact .replace c d hreplace.1
    rcases min_choice (min (a + 1) (b + 1)) (e + if c = d then 0 else 1) with h | h
    · rcases min_choice (a + 1) (b + 1) with h' | h'
      · rw [h, h']
        exact .delete c hdelete.1
      · rw [h, h']
        exact .insert d hinsert.1
    · rw [h]
      exact hedits
  · intro k hk
    cases hk with
    | keep _ hk =>
      have := hreplace.2 hk
      simp only [if_true]
      omega
    | insert _ hk =>
      have := hinsert.2 hk
      omega
    | delete _ hk =>
      have := hdelete.2 hk
      omega
    | replace _ _ hk =>
      have := hreplace.2 hk
      split <;> omega

end LeastEdits

/-! ### Rows -/

/-- Whether a row holds the least number of edits to every suffix of a text, the longest first. -/
def Distances (s t : List Char) (row : List Nat) : Prop := List.Forall₂ (LeastEdits s) t.tails row

/-- The first entry is that of the whole text. -/
theorem Distances.exists_eq_cons {s t : List Char} {row : List Nat} (h : Distances s t row) :
    ∃ n rest, row = n :: rest ∧ LeastEdits s t n := by
  cases t with
  | nil | cons =>
    obtain ⟨n, rest, hn, -, rfl⟩ := List.forall₂_cons_left_iff.1 h
    exact ⟨n, rest, rfl, hn⟩

theorem distances_emptyRow (t : List Char) : Distances [] t (emptyRow t) := by
  induction t with
  | nil => exact .cons (.nil []) .nil
  | cons d t ih => exact .cons (.nil (d :: t)) ih

/-- The row of `c :: s` is made from that of `s`. -/
theorem distances_extendRow (c : Char) {s t : List Char} {row : List Nat}
    (h : Distances s t row) : Distances (c :: s) t (extendRow c t row) := by
  induction t generalizing row with
  | nil =>
    obtain ⟨n, rest, hn, hrest, rfl⟩ := List.forall₂_cons_left_iff.1 h
    cases hrest
    exact .cons (hn.cons_nil c) .nil
  | cons d t ih =>
    obtain ⟨here, below, hhere, hbelow, rfl⟩ := List.forall₂_cons_left_iff.1 h
    obtain ⟨right, rest, rfl, hright⟩ := Distances.exists_eq_cons hbelow
    -- The entries to the right are made first, and the one for the whole text from them.
    have hrow := ih hbelow
    obtain ⟨next, more, hnext, hleast⟩ := hrow.exists_eq_cons
    rw [extendRow]
    refine .cons ?_ hrow
    rw [hnext]
    exact hhere.cons_cons hleast hright

theorem distances_distanceRow (s t : List Char) : Distances s t (distanceRow s t) := by
  induction s with
  | nil => exact distances_emptyRow t
  | cons c s ih => exact distances_extendRow c ih

/-- **The distance is the least number of edits that turn one text into the other.** -/
theorem isLeast_editDistance (s t : String) :
    LeastEdits s.toList t.toList (editDistance s t) := by
  obtain ⟨n, rest, hrow, hleast⟩ := (distances_distanceRow s.toList t.toList).exists_eq_cons
  rw [editDistance, hrow]
  exact hleast

end BoundQuery
