import BoundQuery.Proofs.Schema.Distance
import BoundQuery.Schema.Table

/-!
# Suggestions for unknown columns

A name that no column has is reported together with the column that may have been meant.  The names
of the columns are gone through in order, and one replaces the best so far only if it is nearer, so
of several the first one stays.

* `Table.Near` : names that are like enough, by the number of edits between their upper-case forms
  and the length of the name that was given;
* `Table.Suggests` : the one name to suggest;
* `Table.Scanned` : what is known of the best name once some names have been gone through; one more
  name keeps it (`Scanned.better`), and so do all (`Scanned.foldl`);
* `Table.column_eq_error_iff` : **an unknown name is reported with the nearest column if one is near
  enough, the first in order of several, and without a suggestion otherwise.**
-/

namespace BoundQuery

open Text

namespace Table

/-! ### What to suggest -/

/-- Whether the upper-case forms of two names are so many edits apart. -/
def Apart (name candidate : String) (n : Nat) : Prop :=
  LeastEdits (upper name).toList (upper candidate).toList n

/-- Whether a name may have been meant by one that was given.  They are three edits apart at most,
two if the given name has no more than five bytes, and none if it has no more than two. -/
def Near (name candidate : String) : Prop :=
  ∃ n, Apart name candidate n ∧ n ≤ 3 ∧ (name.utf8ByteSize ≤ 5 → n ≤ 2) ∧
    (name.utf8ByteSize ≤ 2 → n = 0)

/-- Whether a name is the one to suggest for a name that was given. -/
structure Suggests (columns : List Column) (name suggestion : String) : Prop where
  /-- It is the name of a column. -/
  mem : ∃ c ∈ columns, c.name = suggestion
  /-- It is near enough. -/
  near : Near name suggestion
  /-- Every column is farther away, or as far and not before it in order. -/
  best : ∀ c ∈ columns, ∀ m n, Apart name suggestion m → Apart name c.name n →
    m < n ∨ m = n ∧ suggestion ≤ c.name

theorem apart_iff {name candidate : String} {n : Nat} :
    Apart name candidate n ↔ n = editDistance (upper name) (upper candidate) := by
  have hleast := isLeast_editDistance (upper name) (upper candidate)
  exact ⟨fun h => IsLeast.unique h hleast, fun h => h ▸ hleast⟩

theorem near_iff {name candidate : String} :
    Near name candidate ↔ editDistance (upper name) (upper candidate) ≤ tolerance name := by
  simp only [Near, apart_iff, exists_eq_left, tolerance]
  split
  · omega
  · split <;> omega

/-- There is one name to suggest at most. -/
theorem Suggests.unique {columns : List Column} {name s s' : String}
    (h : Suggests columns name s) (h' : Suggests columns name s') : s = s' := by
  obtain ⟨c, hc, rfl⟩ := h.mem
  obtain ⟨c', hc', rfl⟩ := h'.mem
  have hle := h.best c' hc' _ _ (apart_iff.2 rfl) (apart_iff.2 rfl)
  have hge := h'.best c hc _ _ (apart_iff.2 rfl) (apart_iff.2 rfl)
  rcases hle with hle | ⟨heq, hle⟩
  · omega
  · rcases hge with hge | ⟨-, hge⟩
    · omega
    · exact String.le_antisymm hle hge

/-! ### The search -/

/-- Whether `best` is what is left of the names that have been gone through: nothing, as all are too
far away, or the nearest with its distance, the first in order of several. -/
def Scanned (limit : Nat) (distance : String → Nat) (seen : List String) :
    Option (String × Nat) → Prop
  | none => ∀ c ∈ seen, limit < distance c
  | some (s, d) => s ∈ seen ∧ d = distance s ∧ d ≤ limit ∧
      ∀ c ∈ seen, d < distance c ∨ d = distance c ∧ s ≤ c

namespace Scanned

variable {limit : Nat} {distance : String → Nat} {seen : List String}

/-- A name behind all others is taken if it is near enough and nearer than the best. -/
theorem better {best : Option (String × Nat)} (h : Scanned limit distance seen best) {c : String}
    (hc : ∀ s ∈ seen, s < c) :
    Scanned limit distance (seen ++ [c]) (Table.better limit best c (distance c)) := by
  have hlast : c ∈ seen ++ [c] := List.mem_append_right _ (List.mem_singleton_self c)
  -- What holds of the names before and of the new one holds of all.
  have hall : ∀ {p : String → Prop}, (∀ s ∈ seen, p s) → p c → ∀ s ∈ seen ++ [c], p s :=
    fun hseen hnew s hs => (List.mem_append.1 hs).elim (hseen s) fun hs =>
      List.mem_singleton.1 hs ▸ hnew
  cases best with
  | none =>
    simp only [Table.better, and_true]
    split
    next hnear =>
      refine ⟨hlast, rfl, hnear, hall (fun s hs => .inl ?_) (.inr ⟨rfl, String.le_refl c⟩)⟩
      exact Nat.lt_of_le_of_lt hnear (h s hs)
    next hfar => exact hall h (Nat.lt_of_not_le hfar)
  | some entry =>
    obtain ⟨s, d⟩ := entry
    obtain ⟨hs, rfl, hnear, hbest⟩ := h
    simp only [Table.better, decide_eq_true_eq]
    split
    next hnew =>
      refine ⟨hlast, rfl, hnew.1, hall (fun s' hs' => .inl ?_) (.inr ⟨rfl, String.le_refl c⟩)⟩
      have := hbest s' hs'
      omega
    next hold =>
      refine ⟨List.mem_append_left _ hs, rfl, hnear, hall hbest ?_⟩
      have hle : distance s ≤ distance c := by omega
      rcases Nat.lt_or_eq_of_le hle with hlt | heq
      · exact .inl hlt
      · exact .inr ⟨heq, String.not_lt.1 (String.lt_asymm (hc s hs))⟩

/-- Names in ascending order are gone through to the end. -/
theorem foldl {names : List String} (hnames : (seen ++ names).Pairwise (· < ·))
    {best : Option (String × Nat)} (h : Scanned limit distance seen best) :
    Scanned limit distance (seen ++ names)
      (names.foldl (fun best c => Table.better limit best c (distance c)) best) := by
  induction names generalizing seen best with
  | nil => rwa [List.append_nil]
  | cons c rest ih =>
    have hc : ∀ s ∈ seen, s < c := fun s hs =>
      (List.pairwise_append.1 hnames).2.2 s hs c List.mem_cons_self
    rw [List.append_cons] at hnames ⊢
    exact ih hnames (h.better hc)

end Scanned

variable {columns : List Column} {name : String}

theorem mem_names_ofList {s : String} :
    s ∈ (ofList columns).names ↔ ∃ c ∈ columns, c.name = s := by
  rw [names, ofList, Keyed.mem_keys_ofList]
  simp

/-- The suggestion is the name that is left when all names have been gone through. -/
theorem exists_scanned (columns : List Column) (name : String) :
    ∃ best, (ofList columns).suggestion name = best.map Prod.fst ∧
      Scanned (tolerance name) (fun c => editDistance (upper name) (upper c))
        (ofList columns).names best := by
  have hnames : (ofList columns).names.Pairwise (· < ·) :=
    List.pairwise_map.2 (Keyed.ordered_ofList _)
  have hnone : Scanned (tolerance name) (fun c => editDistance (upper name) (upper c)) [] none :=
    List.forall_mem_nil _
  exact ⟨_, rfl, hnone.foldl hnames⟩

theorem suggestion_eq_some_iff {s : String} :
    (ofList columns).suggestion name = some s ↔ Suggests columns name s := by
  obtain ⟨best, hbest, hscanned⟩ := exists_scanned columns name
  rw [hbest]
  cases best with
  | none =>
    refine iff_of_false (by rintro ⟨⟩) fun h => ?_
    exact absurd (near_iff.1 h.near) (Nat.not_le.2 (hscanned s (mem_names_ofList.2 h.mem)))
  | some entry =>
    obtain ⟨s', d⟩ := entry
    obtain ⟨hmem, rfl, hnear, hleast⟩ := hscanned
    have hsuggests : Suggests columns name s' := by
      refine ⟨mem_names_ofList.1 hmem, near_iff.2 hnear, fun c hc m n hm hn => ?_⟩
      rw [apart_iff.1 hm, apart_iff.1 hn]
      exact hleast c.name (mem_names_ofList.2 ⟨c, hc, rfl⟩)
    constructor
    · intro h
      exact Option.some.inj h ▸ hsuggests
    · intro h
      exact congrArg some (hsuggests.unique h)

theorem exists_suggestion_iff :
    (∃ s, (ofList columns).suggestion name = some s) ↔ ∃ c ∈ columns, Near name c.name := by
  constructor
  · rintro ⟨s, hs⟩
    obtain ⟨⟨c, hc, rfl⟩, hnear, -⟩ := suggestion_eq_some_iff.1 hs
    exact ⟨c, hc, hnear⟩
  · rintro ⟨c, hc, hnear⟩
    obtain ⟨best, hbest, hscanned⟩ := exists_scanned columns name
    cases best with
    | none =>
      exact absurd (near_iff.1 hnear)
        (Nat.not_le.2 (hscanned c.name (mem_names_ofList.2 ⟨c, hc, rfl⟩)))
    | some entry => exact ⟨entry.1, hbest⟩

/-- **An unknown name is reported with the best match.**  Whatever the order in which the columns
were listed, a look-up fails exactly for the names that no column has; the report has a suggestion
exactly if a column is near enough, and the suggestion is the nearest column, the first in order of
several. -/
theorem column_eq_error_iff (columns : List Column) (clause name : String)
    (fault : UnknownColumn) :
    (ofList columns).column clause name = .error fault ↔
      (∀ c ∈ columns, c.name ≠ name) ∧ fault.clause = clause ∧ fault.column = name ∧
        ((∃ s, fault.suggestion = some s) ↔ ∃ c ∈ columns, Near name c.name) ∧
        ∀ s, fault.suggestion = some s ↔ Suggests columns name s := by
  have hmissing : (ofList columns).get? name = none ↔ ∀ c ∈ columns, c.name ≠ name := by
    rw [← Option.not_isSome_iff_eq_none, get?, ← Keyed.mem_keys_iff, ← names, mem_names_ofList]
    simp
  rw [column, ← hmissing]
  cases (ofList columns).get? name with
  | some c => exact iff_of_false (by rintro ⟨⟩) (by rintro ⟨⟨⟩, -⟩)
  | none =>
    obtain ⟨clause', column', suggestion⟩ := fault
    simp only [Except.error.injEq, UnknownColumn.mk.injEq, true_and]
    constructor
    · rintro ⟨rfl, rfl, rfl⟩
      exact ⟨rfl, rfl, exists_suggestion_iff, fun s => suggestion_eq_some_iff⟩
    · rintro ⟨rfl, rfl, -, hsuggests⟩
      refine ⟨rfl, rfl, Option.ext fun s => ?_⟩
      rw [suggestion_eq_some_iff, hsuggests]

/-- A name with two letters exchanged: two edits away from `EMAIL`, and too far from `ID`. -/
example : (ofColumns [("ID", "INTEGER"), ("EMAIL", "VARCHAR")]).suggestion "emial" =
    some "EMAIL" := by decide +kernel

end Table

end BoundQuery
