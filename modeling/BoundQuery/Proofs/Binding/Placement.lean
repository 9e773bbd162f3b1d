import BoundQuery.Proofs.Binding.Filling

/-!
# Where the placeholders of a filled template stand

The statement of a `Filling` is read from left to right, text by text.

* `Region.Marked` : a text that opens nothing, with a number of placeholders; what takes the place
  of a token is one, SQL text aside (`marked_filled`);
* `Filling.region`, `Filling.found` : where a reader of the statement stands in front of the text
  of a token, and how many placeholders the reader finds in it;
* `Filling.placeholdersBefore` : how many placeholders stand in front of a token: those that are
  found in the texts before it (`Filling.placeholdersBefore_succ`);
* `Argument.Closed` : an argument after whose text code goes on;
* `Filling.region_eq` : **with closed arguments the reader of the statement stands in front of
  every token where a reader of the template stands.**
-/

namespace BoundQuery

/-! ### Texts that open nothing -/

/-- A text of calm characters with `n` placeholders. -/
structure Region.Marked (cs : List Char) (n : Nat) : Prop where
  /-- There is a character. -/
  nonempty : cs ≠ []
  /-- No character opens a region. -/
  calm : ∀ c ∈ cs, Region.isCalm c = true
  /-- The number of `?`. -/
  count : cs.count '?' = n

namespace Region

theorem Marked.after_eq {cs : List Char} {n : Nat} (h : Marked cs n) {r : Region}
    (hr : r.isCode = true) : r.after cs = .code := after_calm hr h.nonempty h.calm

theorem Marked.count_eq {cs : List Char} {n : Nat} (h : Marked cs n) {r : Region}
    (hr : r.isCode = true) : r.count cs = n := by
  rw [Region.count, marks_calm hr h.calm, count_map_isMark, h.count]

theorem Marked.append {as bs : List Char} {m n : Nat} (ha : Marked as m) (hb : Marked bs n) :
    Marked (as ++ bs) (m + n) where
  nonempty := by simp [ha.nonempty]
  calm c hc := (List.mem_append.1 hc).elim (ha.calm c) (hb.calm c)
  count := by rw [List.count_append, ha.count, hb.count]

theorem Marked.of_all {cs : List Char} {n : Nat} (hne : cs.isEmpty = false)
    (hcalm : cs.all isCalm = true) (hcount : cs.count '?' = n) : Marked cs n :=
  ⟨List.isEmpty_eq_false_iff.1 hne, List.all_eq_true.1 hcalm, hcount⟩

end Region

open Region

theorem marked_marks (n : Nat) : Marked (marks (n + 1)).toList (n + 1) := by
  induction n with
  | zero => exact .of_all rfl rfl rfl
  | succ n ih =>
    have hcons : marks (n + 2) = "?" ++ "," ++ marks (n + 1) := by
      rw [marks, List.replicate_succ, List.replicate_succ, String.intercalate_cons_cons]
      rfl
    -- One more mark and a comma come in front.
    have hmark : Marked ("?" ++ ",").toList 1 := .of_all rfl rfl rfl
    rw [hcons, String.toList_append, Nat.add_comm (n + 1)]
    exact hmark.append ih

theorem marked_listed (a : Argument) : Marked a.listed.sql.toList a.values.length := by
  have hopen : Marked "IN (".toList 0 := .of_all rfl rfl rfl
  have hclose : Marked ")".toList 0 := .of_all rfl rfl rfl
  rw [Argument.listed, String.toList_append, String.toList_append]
  cases hv : a.values.length with
  | zero => exact .of_all rfl rfl rfl
  | succ n =>
    have h := (hopen.append (marked_marks n)).append hclose
    rwa [Nat.zero_add] at h

theorem marked_named {a : Argument} (ha : a.isSql = false) :
    Marked a.named.sql.toList a.values.length := by
  have hnull : Marked "NULL".toList 0 := .of_all rfl rfl rfl
  have hnone : Marked "(NULL)".toList 0 := .of_all rfl rfl rfl
  cases a with
  | scalar v =>
    cases v with
    | null => exact hnull
    | _ => exact marked_marks 0
  | list vs =>
    cases vs with
    | nil => exact hnone
    | cons v vs => exact marked_marks vs.length
  | sql text => cases ha

/-- **What takes the place of a token opens nothing and has one placeholder per value.** -/
theorem marked_filled (t : Token) {a : Argument} (ha : a.isSql = false) :
    Marked (t.filled a).sql.toList a.values.length := by
  cases t with
  | inList cs => exact marked_listed a
  | _ => exact marked_named ha

/-! ### Reading the statement -/

namespace Filling

variable (F : Filling)

/-- The texts of the tokens in front of a place. -/
def before (i : Nat) : List Char := (List.range i).flatMap F.text

/-- Where a reader of the statement stands in front of a token. -/
def region (i : Nat) : Region := Region.code.after (F.before i)

/-- How many placeholders a reader of the statement finds in the text of a token. -/
def found (i : Nat) : Nat := (F.region i).count (F.text i)

/-- How many placeholders of the statement stand in front of the text of a token. -/
def placeholdersBefore (i : Nat) : Nat :=
  (placeholderOffsets F.statement.sql).countP fun o => decide (o < F.textStart i)

theorem before_succ (i : Nat) : F.before (i + 1) = F.before i ++ F.text i := by
  simp [before, List.range_succ]

theorem region_succ (i : Nat) : F.region (i + 1) = (F.region i).after (F.text i) := by
  rw [region, before_succ, after_append]
  rfl

theorem text_of_le {i : Nat} (h : F.tokens.length ≤ i) : F.text i = [] := by
  rw [text, List.getElem?_eq_none h]

theorem before_of_le {i : Nat} (h : F.tokens.length ≤ i) :
    F.before i = F.before F.tokens.length := by
  induction i, h using Nat.le_induction with
  | base => rfl
  | succ i hi ih => rw [before_succ, F.text_of_le hi, List.append_nil, ih]

theorem before_prefix (i : Nat) : F.before i <+: F.before F.tokens.length := by
  rcases Nat.le_total i F.tokens.length with h | h
  · exact flatMap_range_prefix F.text h
  · exact F.before_of_le h ▸ List.prefix_rfl

theorem exists_sql_eq (i : Nat) : ∃ rest, F.statement.sql = String.ofList (F.before i ++ rest) := by
  obtain ⟨rest, h⟩ := F.before_prefix i
  exact ⟨rest, by rw [h]; rfl⟩

theorem placeholdersBefore_eq (i : Nat) :
    F.placeholdersBefore i = Region.code.count (F.before i) := by
  obtain ⟨rest, h⟩ := F.exists_sql_eq i
  rw [placeholdersBefore, h]
  exact countP_placeholderOffsets_lt _ _

@[simp] theorem placeholdersBefore_zero : F.placeholdersBefore 0 = 0 :=
  F.placeholdersBefore_eq 0

/-- The placeholders in front of a token are those that are found in the texts before it. -/
theorem placeholdersBefore_succ (i : Nat) :
    F.placeholdersBefore (i + 1) = F.placeholdersBefore i + F.found i := by
  rw [placeholdersBefore_eq, placeholdersBefore_eq, before_succ, count_append]
  rfl

theorem placeholders_eq :
    F.statement.placeholders = F.placeholdersBefore F.tokens.length := by
  rw [placeholdersBefore_eq, BoundStatement.placeholders, placeholderCount_eq]
  exact congrArg _ String.toList_ofList

/-- A placeholder stands in front of a token if its number is below that of the token. -/
theorem lt_textStart_iff {j o : Nat} (h : (placeholderOffsets F.statement.sql)[j]? = some o)
    (i : Nat) : o < F.textStart i ↔ j < F.placeholdersBefore i := by
  obtain ⟨rest, hs⟩ := F.exists_sql_eq i
  rw [placeholdersBefore_eq]
  rw [hs] at h
  exact lt_length_iff_of_getElem? h

end Filling

/-! ### Closed arguments -/

/-- Whether code goes on after the text of an argument, wherever in code the text stands. -/
def Argument.Closed (a : Argument) : Prop :=
  ∀ text, a = .sql text → ∀ r : Region, r.isCode = true → r.after text.toList = .code

theorem Argument.closed_of_not_isSql {a : Argument} (h : a.isSql = false) : a.Closed := by
  rintro text rfl
  cases h

theorem Argument.Closed.after_filled {a : Argument} (h : a.Closed) (t : Token) {r : Region}
    (hr : r.isCode = true) : r.after (t.filled a).sql.toList = .code := by
  cases t with
  | inList cs => exact (marked_listed a).after_eq hr
  | _ =>
    cases a with
    | sql text => exact h text rfl r hr
    | _ => exact (marked_named rfl).after_eq hr

namespace Filling

variable {F : Filling}

/-- Where a reader of the template stands in front of a token. -/
def templateRegion (F : Filling) (i : Nat) : Region :=
  Region.code.after ((F.tokens.take i).flatMap Token.source)

theorem reads_token (hread : Region.code.Reads F.tokens) {i : Nat} {t : Token}
    (ht : F.tokens[i]? = some t) :
    (F.templateRegion i).marks t.source = t.marks ∧
      (t.isSlot = true → (F.templateRegion i).isCode = true ∧
        (F.templateRegion i).after t.source = .code) ∧
      (t.isPlaceholder = true → t.source.count '?' = 1) := hread.getElem? ht

/-- **With closed arguments the reader of the statement stands where that of the template
does.** -/
theorem region_eq (hread : Region.code.Reads F.tokens)
    (hclosed : ∀ i a, F.argument? i = some a → a.Closed) {i : Nat} (hi : i ≤ F.tokens.length) :
    F.region i = F.templateRegion i := by
  induction i with
  | zero => rfl
  | succ i ih =>
    have ht : F.tokens[i]? = some F.tokens[i] := List.getElem?_eq_getElem hi
    have hnext : F.templateRegion (i + 1) = (F.templateRegion i).after F.tokens[i].source := by
      rw [templateRegion, List.take_add_one, ht, List.flatMap_append, after_append]
      simp [templateRegion]
    rw [region_succ, ih (Nat.le_of_succ_le hi), hnext]
    cases ha : F.argument? i with
    | none => rw [text_of_none ht ha]
    | some a =>
      -- A token with an argument begins and ends in code, and so does what takes its place.
      obtain ⟨t, ht', hslot⟩ := isSlot_of_argument? ha
      obtain rfl := Option.some.inj (ht.symm.trans ht')
      obtain ⟨hcode, hend⟩ := (reads_token hread ht).2.1 hslot
      rw [text_of_some ht ha, (hclosed i a ha).after_filled _ hcode]
      exact hend.symm

theorem found_of_none (hread : Region.code.Reads F.tokens) {i : Nat} {t : Token}
    (hregion : F.region i = F.templateRegion i) (ht : F.tokens[i]? = some t)
    (ha : F.argument? i = none) : F.found i = if t.isPlaceholder then 1 else 0 := by
  obtain ⟨hm, -, hq⟩ := reads_token hread ht
  rw [found, hregion, text_of_none ht ha, Region.count]
  rw [hm, Token.marks]
  split
  · rename_i hp
    rw [count_map_isMark, hq hp]
  · simp [List.count_replicate]

theorem found_of_some (hread : Region.code.Reads F.tokens) {i : Nat} {a : Argument}
    (hregion : F.region i = F.templateRegion i) (ha : F.argument? i = some a)
    (hsql : a.isSql = false) : F.found i = a.values.length := by
  obtain ⟨t, ht, hslot⟩ := isSlot_of_argument? ha
  obtain ⟨hcode, -⟩ := (reads_token hread ht).2.1 hslot
  rw [found, hregion, text_of_some ht ha]
  exact (marked_filled t hsql).count_eq hcode

end Filling

end BoundQuery
