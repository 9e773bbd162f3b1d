import BoundQuery.Proofs.Decimal.Digits
import BoundQuery.Proofs.Pipeline.Results

/-!
# Paths into a context

A path is followed segment by segment, and blanks around it or around a segment do not count.

* `Indexes`, `uint64?_eq_some_iff` : the texts that write an index;
* `Json.Contains`, `Context.step?_eq_some_iff` : one step into a value, said by what is there;
* `segments` : the segments of a path; `segments_append` and `segments_trimChars` : a point parts
  two paths, and blanks around a path are blanks around its segments;
* `Context.lookup?_append` : **what is behind a point is followed from where the text before it
  leads**;
* `Context.Leads`, `Context.lookup?_eq_some_iff` : where a path of any depth leads, step by step;
* `Context.lookup?_composes` : this, and what a new entry changes.
-/

namespace BoundQuery

open Text

/-! ### Indices -/

/-- A text that writes an index: decimal digits, behind a plus sign or without one. -/
inductive Indexes : List Char → Nat → Prop
  /-- Without a sign. -/
  | bare {ds : List Char} (hne : ds ≠ []) (hdigits : ∀ c ∈ ds, c.isDigit = true) :
    Indexes ds (Nat.ofDigitChars 10 ds 0)
  /-- With a plus sign. -/
  | plus {ds : List Char} (hne : ds ≠ []) (hdigits : ∀ c ∈ ds, c.isDigit = true) :
    Indexes ('+' :: ds) (Nat.ofDigitChars 10 ds 0)

theorem digits?_eq_some_iff {ds : List Char} {n : Nat} :
    digits? ds = some n ↔
      ds ≠ [] ∧ (∀ c ∈ ds, c.isDigit = true) ∧ Nat.ofDigitChars 10 ds 0 = n := by
  rw [digits?, Option.ite_none_left_eq_some, natOfDigits_eq, Option.some.injEq]
  simp [and_assoc]

theorem uint64OfNat?_eq_some_iff {n : Nat} {m : UInt64} :
    uint64OfNat? n = some m ↔ n = m.toNat := by
  constructor
  · intro h
    unfold uint64OfNat? at h
    split at h
    next hle =>
      obtain rfl := Option.some.inj h
      rw [UInt64.toNat_ofNat', Nat.mod_eq_of_lt (by omega)]
    next => cases h
  · rintro rfl
    exact uint64OfNat?_toNat m

/-- The texts that are read as an index are those that write it. -/
theorem uint64?_eq_some_iff {cs : List Char} {n : UInt64} :
    uint64? cs = some n ↔ Indexes cs n.toNat := by
  unfold uint64?
  simp only [Option.bind_eq_some_iff, uint64OfNat?_eq_some_iff, digits?_eq_some_iff,
    exists_eq_right]
  generalize n.toNat = m
  split
  next ds =>
    constructor
    · rintro ⟨hne, hdigits, rfl⟩
      exact .plus hne hdigits
    · intro h
      cases h with
      | bare _ hdigits => exact absurd (hdigits _ List.mem_cons_self) (by decide)
      | plus hne hdigits => exact ⟨hne, hdigits, rfl⟩
  next hsign =>
    constructor
    · rintro ⟨hne, hdigits, rfl⟩
      exact .bare hne hdigits
    · intro h
      cases h with
      | bare hne hdigits => exact ⟨hne, hdigits, rfl⟩
      | plus => exact absurd rfl (hsign _)

/-! ### One step -/

/-- What a segment leads to inside a value: the field of an object with that name, or the element
of an array with that index, which fits 64 bits. -/
inductive Json.Contains : Json → List Char → Json → Prop
  /-- A field. -/
  | field {fields : Keyed Json} {segment : List Char} {v : Json}
    (h : fields.get? (String.ofList segment) = some v) : Contains (.object fields) segment v
  /-- An element. -/
  | element {items : List Json} {segment : List Char} {n : Nat} {v : Json}
    (hindex : Indexes segment n) (hn : n < UInt64.size) (h : items[n]? = some v) :
    Contains (.array items) segment v

theorem Context.step?_eq_some_iff {value v : Json} {segment : List Char} :
    step? value segment = some v ↔ value.Contains segment v := by
  unfold step?
  constructor
  · intro h
    split at h
    next fields => exact .field h
    next items =>
      obtain ⟨n, hn, hv⟩ := Option.bind_eq_some_iff.1 h
      exact .element (uint64?_eq_some_iff.1 hn) n.toNat_lt hv
    next => cases h
  · intro h
    cases h with
    | field h => exact h
    | @element items segment n v hindex hn h =>
      have hnat : (UInt64.ofNat n).toNat = n := by
        rw [UInt64.toNat_ofNat', Nat.mod_eq_of_lt hn]
      rw [← hnat] at hindex h
      exact Option.bind_eq_some_iff.2 ⟨_, uint64?_eq_some_iff.2 hindex, h⟩

/-! ### Segments -/

/-- The segments of a path, each without the blanks around it. -/
def segments (path : List Char) : List (List Char) := (path.splitOn '.').map trimChars

/-- A path is one segment, or a path with a segment behind its last point. -/
@[elab_as_elim]
theorem point_induction {motive : List Char → Prop} (single : ∀ s, '.' ∉ s → motive s)
    (point : ∀ p s, '.' ∉ s → motive p → motive (p ++ '.' :: s)) (path : List Char) :
    motive path := by
  -- The text behind the part that has been seen is the end of the last segment.
  have hall : ∀ s, '.' ∉ s → motive (path ++ s) := by
    induction path using List.reverseRecOn with
    | nil => exact single
    | append_singleton p c ih =>
      intro s hs
      rw [List.append_assoc, List.singleton_append]
      by_cases hc : c = '.'
      · subst hc
        refine point p s hs ?_
        simpa using ih [] List.not_mem_nil
      · exact ih (c :: s) (List.not_mem_cons_of_ne_of_not_mem (Ne.symm hc) hs)
  simpa using hall [] List.not_mem_nil

theorem segments_of_not_mem {s : List Char} (h : '.' ∉ s) : segments s = [trimChars s] := by
  rw [segments, List.splitOn_eq_singleton h, List.map_singleton]

/-- A point parts two paths. -/
theorem segments_append (p q : List Char) : segments (p ++ '.' :: q) = segments p ++ segments q := by
  rw [segments, List.splitOn_append_cons_self, List.map_append]
  rfl

/-- The first segment is the text in front of the first point. -/
theorem exists_segments (path : List Char) :
    ∃ rest, segments path = trimChars (path.takeWhile (· ≠ '.')) :: rest := by
  by_cases h : '.' ∈ path
  · obtain ⟨s, q, rfl, hs⟩ := List.eq_append_cons_of_mem h
    have hfront : (s ++ '.' :: q).takeWhile (· ≠ '.') = s := by
      rw [List.takeWhile_append_of_pos, List.takeWhile_cons_of_neg (by simp), List.append_nil]
      rintro c hc
      simpa using fun heq : c = '.' => hs (heq ▸ hc)
    exact ⟨segments q, by rw [segments_append, segments_of_not_mem hs, hfront]; rfl⟩
  · have hall : path.takeWhile (· ≠ '.') = path := by
      rw [List.takeWhile_eq_self_iff]
      intro c hc
      simpa using fun heq : c = '.' => h (heq ▸ hc)
    exact ⟨[], by rw [segments_of_not_mem h, hall]⟩

/-- Blanks around a path are blanks around its segments. -/
theorem segments_padded {front : List Char} (hfront : ∀ c ∈ front, isBlank c = true)
    (path : List Char) {back : List Char} (hback : ∀ c ∈ back, isBlank c = true) :
    segments (front ++ path ++ back) = segments path := by
  have hpoint : ∀ blanks : List Char, (∀ c ∈ blanks, isBlank c = true) → '.' ∉ blanks :=
    fun _ hblanks hmem => absurd (hblanks _ hmem) (by decide)
  induction path using point_induction generalizing back with
  | single s hs =>
    have hmem : '.' ∉ front ++ s ++ back := by simp [hs, hpoint _ hfront, hpoint _ hback]
    rw [segments_of_not_mem hmem, segments_of_not_mem hs, trimChars_padded hfront hback]
  | point p s hs ih =>
    -- The blanks after the path belong to its last segment.
    have hsplit : front ++ (p ++ '.' :: s) ++ back =
        front ++ p ++ [] ++ '.' :: ([] ++ s ++ back) := by simp
    have hmem : '.' ∉ [] ++ s ++ back := by simp [hs, hpoint _ hback]
    rw [hsplit, segments_append, ih (List.forall_mem_nil _), segments_of_not_mem hmem,
      trimChars_padded (List.forall_mem_nil _) hback, segments_append, segments_of_not_mem hs]

theorem segments_trimChars (path : List Char) : segments (trimChars path) = segments path := by
  obtain ⟨front, back, hends, hsplit⟩ := exists_trimChars path
  conv_rhs => rw [hsplit]
  exact (segments_padded (fun c hc => hends c (List.mem_append_left _ hc)) _
    fun c hc => hends c (List.mem_append_right _ hc)).symm

/-! ### Look-ups -/

namespace Context

theorem follow?_map_trimChars (v : Json) (segs : List (List Char)) :
    follow? v (segs.map trimChars) = follow? v segs := by
  induction segs generalizing v with
  | nil => rfl
  | cons s segs ih => simp only [List.map_cons, follow?, trimChars_trimChars, ih]

theorem follow?_append (v : Json) (xs ys : List (List Char)) :
    follow? v (xs ++ ys) = (follow? v xs).bind (follow? · ys) := by
  induction xs generalizing v with
  | nil => rfl
  | cons x xs ih =>
    rw [List.cons_append, follow?, follow?]
    cases step? v (trimChars x) with
    | none => rfl
    | some u => exact ih u

theorem follow?_singleton (v : Json) (s : List Char) :
    follow? v [s] = step? v (trimChars s) := by
  rw [follow?]
  cases step? v (trimChars s) <;> rfl

variable (c : Context)

/-- A look-up takes the entry by the first segment and follows the others. -/
theorem lookup?_of_segments {path name : List Char} {rest : List (List Char)}
    (h : segments path = name :: rest) :
    c.lookup? path = (c.get? (String.ofList name)).bind (follow? · rest) := by
  rw [← segments_trimChars, segments] at h
  rw [lookup?]
  cases hsplit : (trimChars path).splitOn '.' with
  | nil => exact absurd hsplit (List.splitOn_ne_nil '.' _)
  | cons first others =>
    rw [hsplit] at h
    obtain ⟨rfl, rfl⟩ := List.cons.inj h
    dsimp only
    cases c.get? (String.ofList (trimChars first)) with
    | none => rfl
    | some v => exact (follow?_map_trimChars v others).symm

theorem lookup?_of_not_mem {path : List Char} (h : '.' ∉ path) :
    c.lookup? path = c.get? (String.ofList (trimChars path)) := by
  rw [c.lookup?_of_segments (segments_of_not_mem h)]
  cases c.get? (String.ofList (trimChars path)) <;> rfl

/-- **What is behind a point is followed from where the text before it leads.** -/
theorem lookup?_append (p q : List Char) :
    c.lookup? (p ++ '.' :: q) = (c.lookup? p).bind (follow? · (segments q)) := by
  obtain ⟨rest, hp⟩ := exists_segments p
  have hall := segments_append p q
  rw [hp, List.cons_append] at hall
  rw [c.lookup?_of_segments hall, c.lookup?_of_segments hp, Option.bind_assoc]
  simp only [follow?_append]

theorem lookup?_point (p : List Char) {s : List Char} (hs : '.' ∉ s) :
    c.lookup? (p ++ '.' :: s) = (c.lookup? p).bind (step? · (trimChars s)) := by
  rw [lookup?_append, segments_of_not_mem hs]
  simp only [follow?_singleton, trimChars_trimChars]

/-- Where a path leads. -/
inductive Leads : List Char → Json → Prop
  /-- A path without a point leads to the entry with that name. -/
  | entry {name : List Char} {v : Json} (hname : '.' ∉ name)
    (h : c.get? (String.ofList (trimChars name)) = some v) : Leads name v
  /-- One more segment leads one step further. -/
  | step {path segment : List Char} {u v : Json} (h : Leads path u) (hsegment : '.' ∉ segment)
    (hstep : u.Contains (trimChars segment) v) : Leads (path ++ '.' :: segment) v

variable {c}

/-- A look-up finds what the path leads to, however deep it is. -/
theorem lookup?_eq_some_iff {path : List Char} {v : Json} :
    c.lookup? path = some v ↔ c.Leads path v := by
  constructor
  · intro h
    induction path using point_induction generalizing v with
    | single s hs => exact .entry hs (c.lookup?_of_not_mem hs ▸ h)
    | point p s hs ih =>
      rw [c.lookup?_point p hs, Option.bind_eq_some_iff] at h
      obtain ⟨u, hu, hv⟩ := h
      exact .step (ih hu) hs (step?_eq_some_iff.1 hv)
  · intro h
    induction h with
    | entry hname h => rwa [c.lookup?_of_not_mem hname]
    | @step path segment u v _ hsegment hstep ih =>
      rw [c.lookup?_point path hsegment, ih]
      exact step?_eq_some_iff.2 hstep

/-! ### New entries -/

/-- A new entry changes nothing for paths that start with another name. -/
theorem lookup?_insert_of_ne {name : String} {path : List Char} (v : Json)
    (h : String.ofList (trimChars (path.takeWhile (· ≠ '.'))) ≠ name) :
    (c.insert name v).lookup? path = c.lookup? path := by
  obtain ⟨rest, hrest⟩ := exists_segments path
  rw [lookup?_of_segments _ hrest, lookup?_of_segments _ hrest, get?_insert, if_neg h]

/-- A new entry is found by its name. -/
theorem lookup?_insert_self {name : String} (hpoint : '.' ∉ name.toList) (htrim : trim name = name)
    (v : Json) : (c.insert name v).lookup? name.toList = some v := by
  rw [lookup?_of_not_mem _ hpoint, ← trim, htrim, get?_insert, if_pos rfl]

/-- **A path is followed segment by segment, and a new entry counts only for its own name.**  A
path with a segment behind it leads to what the path leads to and then one step into it; a path
without a point leads to the entry with that name; so every path leads where its segments do.
After an entry is put in, paths that start with another name lead where they did, and the name
leads to the entry. -/
theorem lookup?_composes (c : Context) :
    (∀ p s v, '.' ∉ s → (c.lookup? (p ++ '.' :: s) = some v ↔
        ∃ u, c.lookup? p = some u ∧ u.Contains (trimChars s) v)) ∧
      (∀ p, '.' ∉ p → c.lookup? p = c.get? (String.ofList (trimChars p))) ∧
      (∀ path v, c.lookup? path = some v ↔ c.Leads path v) ∧
      (∀ name v path, String.ofList (trimChars (path.takeWhile (· ≠ '.'))) ≠ name →
        (c.insert name v).lookup? path = c.lookup? path) ∧
      ∀ name v, '.' ∉ name.toList → trim name = name →
        (c.insert name v).lookup? name.toList = some v := by
  refine ⟨fun p s v hs => ?_, fun p => c.lookup?_of_not_mem, fun path v => lookup?_eq_some_iff,
    fun name v path => lookup?_insert_of_ne v, fun name v hpoint htrim =>
      lookup?_insert_self hpoint htrim v⟩
  rw [c.lookup?_point p hs, Option.bind_eq_some_iff]
  simp only [step?_eq_some_iff]

/-- Blanks in a path, an index with a sign and one with a zero in front, and an entry that is put
in under another name. -/
theorem lookup?_composes_rows :
    ((empty.insert "output0" (.array [.array [.string "a", .string "b"]])).insert "x"
        (.bool true)).lookup? " output0 .+0 . 01 ".toList = some (.string "b") ∧
      (empty.insert "x" (.bool true)).lookup? "x".toList = some (.bool true) := by
  let c := empty.insert "output0" (.array [.array [.string "a", .string "b"]])
  have hrow : c.lookup? " output0 .+0 ".toList = some (.array [.string "a", .string "b"]) := rfl
  have hindex : Indexes (trimChars " 01 ".toList) 1 :=
    @Indexes.bare ['0', '1'] (by decide) (List.all_eq_true.1 rfl)
  have hvalue : c.lookup? (" output0 .+0 ".toList ++ '.' :: " 01 ".toList) = some (.string "b") :=
    ((lookup?_composes c).1 _ _ _ (by decide)).2 ⟨_, hrow, .element hindex (by decide) rfl⟩
  refine ⟨?_, (lookup?_composes empty).2.2.2.2 "x" _ (by decide) (by decide)⟩
  exact ((lookup?_composes c).2.2.2.1 "x" _ _ (by decide)).trans hvalue

end Context

end BoundQuery
