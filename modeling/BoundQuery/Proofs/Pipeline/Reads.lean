import BoundQuery.Proofs.Pipeline.RowCap

/-!
# Which statements are reads

Whether a statement is a read decides whether it may run, whether its rows are limited and whether
rows are fetched for it.  It is decided again for the text that the check leaves, so the answers
have to be the same.

* `Preamble` : blanks and closed comments, which may stand in front of a statement;
* `Preamble.exists_quiet` : they have no words, whatever follows them, so **what stands behind them
  is a read exactly if it is one by itself** (`isRead_preamble`);
* `sanitize_eq` : the answer of the check, with the read and the limit looked up in the text as it
  was given;
* `sanitize_sound` : **the check lets reads through, and only reads if only they may run, and what
  it makes of a statement is a read exactly if the statement was one.**
-/

namespace BoundQuery

open Text

/-! ### In front of a statement -/

/-- What may stand in front of a statement: blanks, block comments that are closed and line comments
that end with their line. -/
inductive Preamble : List Char → Prop where
  /-- Nothing. -/
  | nil : Preamble []
  /-- A blank. -/
  | blank {c : Char} {cs : List Char} (hblank : isBlank c = true) (h : Preamble cs) :
    Preamble (c :: cs)
  /-- A block comment, closed where it says so for the first time. -/
  | block {body cs : List Char} (hbody : ¬ ['*', '/'] <:+: body) (h : Preamble cs) :
    Preamble ('/' :: '*' :: (body ++ '*' :: '/' :: cs))
  /-- A line comment and the end of the line. -/
  | line {body cs : List Char} (hbody : '\n' ∉ body) (h : Preamble cs) :
    Preamble ('-' :: '-' :: (body ++ '\n' :: cs))

/-- A block comment ends where it is closed for the first time. -/
theorem blockComment_closed {body : List Char} (h : ¬ ['*', '/'] <:+: body) (cs : List Char) :
    (Token.blockComment (body ++ '*' :: '/' :: cs)).2 = cs := by
  induction body with
  | nil => rfl
  | cons c body ih =>
    have hrest := ih fun hinfix => h (List.infix_cons hinfix)
    -- The comment goes on behind `c`, since `c` and what follows it close nothing.
    have hgoes : (Token.blockComment (c :: (body ++ '*' :: '/' :: cs))).2 =
        (Token.blockComment (body ++ '*' :: '/' :: cs)).2 := by
      cases body with
      | nil =>
        rw [List.nil_append, Token.blockComment, if_neg fun hc => by simp at hc]
      | cons d body =>
        have hopen : ¬ (c = '*' ∧ d = '/') := by
          rintro ⟨rfl, rfl⟩
          exact h ⟨[], body, rfl⟩
        rw [List.cons_append, Token.blockComment, if_neg hopen]
    rw [List.cons_append, hgoes, hrest]

/-- A line comment ends with its line. -/
theorem dropWhile_line {body : List Char} (h : '\n' ∉ body) (cs : List Char) :
    (body ++ '\n' :: cs).dropWhile (· ≠ '\n') = '\n' :: cs := by
  rw [List.dropWhile_append_of_pos]
  · rfl
  · intro c hc
    exact decide_eq_true fun heq => h (heq ▸ hc)

/-- A block comment says nothing. -/
theorem spoken_block (cs : List Char) :
    spoken ('/' :: '*' :: cs) = spoken (Token.blockComment cs).2 := by
  rw [spoken_cons]
  rfl

/-- A line comment says nothing. -/
theorem spoken_line (cs : List Char) :
    spoken ('-' :: '-' :: cs) = spoken (cs.dropWhile (· ≠ '\n')) := by
  rw [spoken_cons]
  rfl

/-- A blank or semicolon in front of a text adds no words. -/
theorem exists_quiet_cons {c : Char} {cs : List Char} {us : List Token} (hc : isGap c = true)
    (h : ∃ ts, Quiet ts ∧ spoken cs = ts ++ us) : ∃ ts, Quiet ts ∧ spoken (c :: cs) = ts ++ us := by
  obtain ⟨ts, hts, heq⟩ := h
  have hgaps : ∀ d ∈ [c], isGap d = true := fun d hd => List.mem_singleton.1 hd ▸ hc
  obtain ⟨first, hfirst, hgap⟩ := exists_quiet_of_gaps hgaps cs
  refine ⟨first ++ ts, fun t ht => (List.mem_append.1 ht).elim (hfirst t) (hts t), ?_⟩
  rw [List.append_assoc, ← heq, ← hgap, List.singleton_append]

/-- What may stand in front of a statement has no words, whatever follows it. -/
theorem Preamble.exists_quiet {front : List Char} (h : Preamble front) (cs : List Char) :
    ∃ ts, Quiet ts ∧ spoken (front ++ cs) = ts ++ spoken cs := by
  induction h with
  | nil => exact ⟨[], nofun, rfl⟩
  | blank hblank _ ih => exact exists_quiet_cons (Bool.or_eq_true_iff.2 (.inl hblank)) ih
  | block hbody _ ih =>
    simp only [List.cons_append, List.append_assoc]
    rw [spoken_block, blockComment_closed hbody]
    exact ih
  | line hbody _ ih =>
    simp only [List.cons_append, List.append_assoc]
    rw [spoken_line, dropWhile_line hbody]
    exact exists_quiet_cons rfl ih

/-- What stands in front of a statement makes no difference. -/
theorem isRead_preamble {front : List Char} (h : Preamble front) (sql : String) :
    isRead (String.ofList front ++ sql) = isRead sql := by
  obtain ⟨ts, hts, hspoken⟩ := h.exists_quiet sql.toList
  have hwords : codeWords (String.ofList front ++ sql) = codeWords sql := by
    rw [codeWords_eq, String.toList_append, String.toList_ofList, hspoken, List.filterMap_append,
      hts.words, List.nil_append, codeWords_eq]
  rw [isRead, hwords, isRead]

/-! ### What the check makes of a statement -/

section

variable {d : Dialect} {sql checked : String} {rowLimit : UInt64} {selectOnly : Bool}

/-- Whether the check lets a statement through. -/
def Passes (sql : String) (selectOnly : Bool) : Prop :=
  stripped sql ≠ "" ∧ (selectOnly = true → isRead sql = true)

/-- The answer of the check to a statement that it lets through. -/
theorem sanitize_eq (h : Passes sql selectOnly) :
    d.sanitize sql rowLimit selectOnly =
      .ok (if isRead sql = true ∧ 0 < rowLimit ∧ isCapped sql = false
        then stripped sql ++ " " ++ d.rowCap rowLimit.toNat else stripped sql) := by
  obtain ⟨hne, hread⟩ := h
  have hempty : (stripped sql).isEmpty = false := by
    rwa [← Bool.not_eq_true, String.isEmpty_iff]
  have hallowed : (selectOnly && !isRead sql) = false := by
    cases selectOnly with
    | false => rfl
    | true => rw [hread rfl]; rfl
  have hlimits : (isRead sql && decide (0 < rowLimit) && !isCapped sql) = true ↔
      isRead sql = true ∧ 0 < rowLimit ∧ isCapped sql = false := by
    simp only [Bool.and_eq_true, decide_eq_true_eq, Bool.not_eq_true', and_assoc]
  simp only [Dialect.sanitize, hempty, isRead_stripped, isCapped_stripped, hallowed, hlimits,
    Bool.false_eq_true, if_false]
  split <;> rfl

/-- The check lets through what is not empty and, if only reads may run, is a read. -/
theorem exists_sanitize_iff :
    (∃ checked, d.sanitize sql rowLimit selectOnly = .ok checked) ↔ Passes sql selectOnly := by
  refine ⟨fun ⟨checked, h⟩ => ?_, fun h => ⟨_, sanitize_eq h⟩⟩
  simp only [Dialect.sanitize, isRead_stripped] at h
  split at h
  · cases h
  rename_i hne
  split at h
  · cases h
  rename_i hallowed
  refine ⟨fun hempty => hne (String.isEmpty_iff.2 hempty), fun honly => ?_⟩
  rw [honly, Bool.true_and, Bool.not_eq_true, Bool.not_eq_false'] at hallowed
  exact hallowed

/-- What is put behind a read leaves it one, so the check does not change which statements are
reads. -/
theorem isRead_sanitize (h : d.sanitize sql rowLimit selectOnly = .ok checked) :
    isRead checked = isRead sql := by
  rw [sanitize_eq (exists_sanitize_iff.1 ⟨checked, h⟩), Except.ok.injEq] at h
  rw [← h]
  split
  next hlimits =>
    have hread : isRead (stripped sql) = true := (isRead_stripped sql).trans hlimits.1
    rw [String.append_assoc, isRead_append (apart_rowCap d _) hread, hlimits.1]
  next => exact isRead_stripped sql

/-- **The check is sound for reads.**  It lets through what is not empty and, if only reads may run,
is a read.  What it makes of a statement is a read exactly if the statement is one, and is the
statement without the blanks and semicolons at its ends, followed by the clause of the dialect
exactly if it is a read whose rows are to be limited and which does not do so itself.  Blanks and
closed comments in front of a statement make no difference. -/
theorem sanitize_sound (d : Dialect) (sql : String) (rowLimit : UInt64) :
    ((∃ checked, d.sanitize sql rowLimit true = .ok checked) ↔
        stripped sql ≠ "" ∧ isRead sql = true) ∧
      ((∃ checked, d.sanitize sql rowLimit false = .ok checked) ↔ stripped sql ≠ "") ∧
      (∀ selectOnly checked, d.sanitize sql rowLimit selectOnly = .ok checked →
        isRead checked = isRead sql ∧
          checked = if isRead sql = true ∧ 0 < rowLimit ∧ isCapped sql = false
            then stripped sql ++ " " ++ d.rowCap rowLimit.toNat else stripped sql) ∧
      ∀ front, Preamble front → isRead (String.ofList front ++ sql) = isRead sql := by
  refine ⟨?_, ?_, fun selectOnly checked h => ⟨isRead_sanitize h, ?_⟩, fun front h =>
    isRead_preamble h sql⟩
  · rw [exists_sanitize_iff, Passes]
    simp
  · rw [exists_sanitize_iff, Passes]
    simp
  · rw [sanitize_eq (exists_sanitize_iff.1 ⟨checked, h⟩), Except.ok.injEq] at h
    exact h.symm

/-- A statement behind two comments, which ends in one that is not closed. -/
theorem sanitize_sound_commented :
    Dialect.sqlite.sanitize " select 1 /* ;" 5 true = .ok "select 1 /* LIMIT 5" ∧
      isRead "select 1 /* LIMIT 5" = true ∧
      isRead "-- a ?\n/* b **/ select 1 /* ;" = isRead " select 1 /* ;" := by
  obtain ⟨-, -, hchecked, hfront⟩ := sanitize_sound .sqlite " select 1 /* ;" 5
  have hsanitize : Dialect.sqlite.sanitize " select 1 /* ;" 5 true = .ok "select 1 /* LIMIT 5" := by
    decide +kernel
  have hread : isRead " select 1 /* ;" = true := by decide +kernel
  have hpreamble : Preamble "-- a ?\n/* b **/".toList :=
    @Preamble.line " a ?".toList _ (by decide) (@Preamble.block " b *".toList _ (by decide) .nil)
  exact ⟨hsanitize, (hchecked _ _ hsanitize).1.trans hread, hfront _ hpreamble⟩

end

end BoundQuery
