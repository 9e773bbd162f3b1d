import BoundQuery.Proofs.Pipeline.Words

/-!
# When the row cap takes effect

The check puts a clause behind a read that does not limit its rows itself.  Whether the clause is
code depends on where the statement ends.

* `Region.hides` : the regions in which a clause is not read as code;
* `Region.rest_eq_nil` : a clause leaves nothing behind an open quote or comment;
* `isCapped_append_rowCap` : **the clause is found exactly when the statement ends in code and
  outside of parentheses**;
* `isCapped_sanitize_iff` : so a read that passes the check is limited exactly when it was limited
  before or it ends that way, and then a second check adds nothing.

A statement that ends in a comment is the gap: the clause becomes part of the comment
(`isCapped_sanitize_comment`).
-/

namespace BoundQuery

open Text

namespace Region

/-- Whether a text that continues the region is hidden by it. -/
def hides : Region → Bool
  | .code | .dash | .slash | .escape => false
  | _ => true

/-- A region between quotes is one between single or double ones. -/
def Proper : Region → Prop
  | .quoted q | .quotedEscape q => q = '\x27' ∨ q = '"'
  | _ => True

theorem proper_ofCode (c : Char) : (ofCode c).Proper := by
  unfold ofCode
  split
  · assumption
  split
  · trivial
  split
  · trivial
  split <;> trivial

theorem Proper.next {r : Region} (h : r.Proper) (c : Char) : (r.next c).Proper := by
  cases r with
  | code => exact proper_ofCode c
  | dash | slash =>
    simp only [Region.next]
    split
    · trivial
    · exact proper_ofCode c
  | escape => trivial
  | quotedEscape q => exact h
  | quoted q =>
    simp only [Region.next]
    split
    · trivial
    split
    · exact h
    · exact h
  | line | block =>
    simp only [Region.next]
    split <;> trivial
  | blockStar =>
    simp only [Region.next]
    split
    · trivial
    split <;> trivial

theorem Proper.after {r : Region} (h : r.Proper) (cs : List Char) : (r.after cs).Proper := by
  induction cs generalizing r with
  | nil => exact h
  | cons c cs ih => exact ih (h.next c)

theorem rest_quoted_eq_nil {q : Char} {cs : List Char} (h : ∀ c ∈ cs, c ≠ q ∧ c ≠ '\\') :
    (Region.quoted q).rest cs = [] := by
  induction cs with
  | nil => rfl
  | cons c cs ih =>
    obtain ⟨hq, hb⟩ := h c List.mem_cons_self
    have hn : (Region.quoted q).next c = .quoted q := by simp [Region.next, hq, hb]
    rw [rest_quoted_cons, hn]
    exact ih fun d hd => h d (List.mem_cons_of_mem _ hd)

theorem rest_block_eq_nil {cs : List Char} (h : ∀ c ∈ cs, c ≠ '*') : Region.block.rest cs = [] := by
  induction cs with
  | nil => rfl
  | cons c cs ih =>
    rw [rest_block_cons (h c List.mem_cons_self)]
    exact ih fun d hd => h d (List.mem_cons_of_mem _ hd)

/-- A text of calm characters on one line is hidden as a whole. -/
theorem rest_eq_nil {r : Region} {cs : List Char} (hr : r.hides = true) (hp : r.Proper)
    (h : ∀ c ∈ cs, isCalm c = true ∧ c ≠ '\n') : r.rest cs = [] := by
  have hne : ∀ c ∈ cs, c ≠ '\x27' ∧ c ≠ '"' ∧ c ≠ '\\' ∧ c ≠ '/' ∧ c ≠ '*' := by
    intro c hc
    have := (h c hc).1
    simp only [isCalm, Bool.and_eq_true, bne_iff_ne] at this
    exact ⟨this.1.1.1.1.1, this.1.1.1.1.2, this.1.1.1.2, this.1.2, this.2⟩
  have hquote : ∀ {q : Char}, q = '\x27' ∨ q = '"' → ∀ c ∈ cs, c ≠ q ∧ c ≠ '\\' := by
    rintro q (rfl | rfl) c hc
    · exact ⟨(hne c hc).1, (hne c hc).2.2.1⟩
    · exact ⟨(hne c hc).2.1, (hne c hc).2.2.1⟩
  cases r with
  | code | dash | slash | escape => cases hr
  | quoted q => exact rest_quoted_eq_nil (hquote hp)
  | quotedEscape q => exact rest_quoted_eq_nil fun c hc => hquote hp c (List.mem_of_mem_tail hc)
  | line => exact List.dropWhile_eq_nil_iff.2 fun c hc => by simpa using (h c hc).2
  | block => exact rest_block_eq_nil fun c hc => (hne c hc).2.2.2.2
  | blockStar =>
    cases cs with
    | nil => rfl
    | cons c cs =>
      rw [rest_blockStar_cons (hne c List.mem_cons_self).2.2.2.1]
      exact rest_block_eq_nil fun d hd => (hne d hd).2.2.2.2

end Region

/-! ### Words behind a statement -/

section

variable {sql clause : String}

theorem topWords_append (h : Apart clause.toList) :
    topWords (sql ++ clause) = topWords sql ++ wordsAtTop (openParens sql)
      (spoken ((Region.code.after sql.toList).rest clause.toList)) := by
  rw [topWords_eq, topWords_eq, openParens_eq, String.toList_append, spoken_append h,
    wordsAtTop_append]

theorem codeWords_append (h : Apart clause.toList) :
    codeWords (sql ++ clause) = codeWords sql ++
      (spoken ((Region.code.after sql.toList).rest clause.toList)).filterMap Token.word? := by
  rw [codeWords_eq, codeWords_eq, String.toList_append, spoken_append h, List.filterMap_append]

/-- What is put behind a read leaves it a read. -/
theorem isRead_append (h : Apart clause.toList) (hread : isRead sql = true) :
    isRead (sql ++ clause) = true := by
  unfold isRead at hread ⊢
  rw [codeWords_append h]
  cases hwords : codeWords sql with
  | nil =>
    rw [hwords] at hread
    cases hread
  | cons word words =>
    rw [hwords] at hread
    exact hread

end

theorem isRead_stripped (sql : String) : isRead (stripped sql) = isRead sql := by
  rw [isRead, codeWords_stripped, isRead]

theorem isCapped_stripped (sql : String) : isCapped (stripped sql) = isCapped sql := by
  rw [isCapped, topWords_stripped, isCapped]

/-! ### The clause -/

/-- The word that the clause begins with. -/
def Dialect.capWord : Dialect → String
  | .db2 => "FETCH"
  | _ => "LIMIT"

section

variable (d : Dialect) (limit : Nat)

theorem exists_rowCap : ∃ tail, (d.rowCap limit).toList = d.capWord.toList ++ ' ' :: tail := by
  cases d with
  | db2 => exact ⟨_, by simp only [Dialect.rowCap, String.toList_append]; rfl⟩
  | _ => exact ⟨_, by simp only [Dialect.rowCap, String.toList_append]; rfl⟩

/-- The clause behind a blank stands apart from what is in front of it. -/
theorem apart_rowCap : Apart (" " ++ d.rowCap limit).toList := by
  obtain ⟨tail, htail⟩ := exists_rowCap d limit
  rw [String.toList_append, htail]
  refine ⟨fun c hc => ?_, fun c hc => ?_⟩
  · obtain rfl : ' ' = c := Option.some.inj hc
    rfl
  · cases d with
    | db2 =>
      obtain rfl : 'F' = c := Option.some.inj hc
      decide
    | _ =>
      obtain rfl : 'L' = c := Option.some.inj hc
      decide

/-- The first token of the clause is its word. -/
theorem spoken_rowCap :
    ∃ tail, spoken (d.rowCap limit).toList = .text d.capWord.toList :: spoken tail := by
  obtain ⟨tail, htail⟩ := exists_rowCap d limit
  refine ⟨' ' :: tail, ?_⟩
  rw [htail]
  cases d with
  | db2 => exact spoken_cons 'F' _
  | _ => exact spoken_cons 'L' _

theorem calm_rowCap {c : Char} (h : c ∈ (" " ++ d.rowCap limit).toList) :
    Region.isCalm c = true ∧ c ≠ '\n' ∧ c ≠ ')' := by
  rw [String.toList_append] at h
  have hchar : (c.isAlphanum || c == ' ') = true := by
    rcases List.mem_cons.1 h with rfl | h
    · rfl
    · exact rowCap_chars d limit h
  refine ⟨(isCalm_of (p := fun c => c.isAlphanum || c == ' ') (by decide) hchar).1, ?_, ?_⟩
  · rintro rfl
    revert hchar
    decide
  · rintro rfl
    revert hchar
    decide

/-- No parenthesis is closed by a text without one. -/
theorem not_mem_spoken {cs : List Char} (h : ')' ∉ cs) : .text [')'] ∉ spoken cs := by
  intro hmem
  refine h ?_
  rw [← flatMap_source_tokens cs]
  exact List.mem_flatMap.2 ⟨_, List.mem_of_mem_filter hmem, List.mem_singleton.2 rfl⟩

/-- In code the clause counts as a whole, the blank in front of it aside. -/
theorem exists_quiet_rowCap {r : Region} (hr : r.hides = false) :
    ∃ ts, Quiet ts ∧ spoken (r.rest (" " ++ d.rowCap limit).toList) =
      ts ++ spoken (d.rowCap limit).toList := by
  have hblank : ∀ c ∈ [' '], isGap c = true := by
    intro c hc
    obtain rfl := List.mem_singleton.1 hc
    rfl
  rw [String.toList_append]
  cases r with
  | code | dash | slash => exact exists_quiet_of_gaps hblank _
  | escape => exact ⟨[], nofun, rfl⟩
  | _ => cases hr

theorem isCapped_rowCap :
    (wordsAtTop 0 (spoken (d.rowCap limit).toList)).any capWords.contains = true := by
  obtain ⟨tail, htail⟩ := spoken_rowCap d limit
  rw [htail]
  cases d with
  | db2 => rfl
  | _ => rfl

/-- **The clause is found exactly when the statement in front of it ends in code and outside of
parentheses.** -/
theorem isCapped_append_rowCap {sql : String} (hcapped : isCapped sql = false) :
    isCapped (sql ++ (" " ++ d.rowCap limit)) = true ↔
      (Region.code.after sql.toList).hides = false ∧ openParens sql = 0 := by
  have hproper : (Region.code.after sql.toList).Proper := Region.Proper.after (r := .code) trivial _
  have hcalm := fun c => calm_rowCap d limit (c := c)
  have hwords : isCapped (sql ++ (" " ++ d.rowCap limit)) =
      (wordsAtTop (openParens sql) (spoken ((Region.code.after sql.toList).rest
        (" " ++ d.rowCap limit).toList))).any capWords.contains := by
    unfold isCapped at hcapped ⊢
    rw [topWords_append (apart_rowCap d limit), List.any_append, hcapped, Bool.false_or]
  rw [hwords]
  cases hhides : (Region.code.after sql.toList).hides with
  | true =>
    rw [Region.rest_eq_nil hhides hproper fun c hc => ⟨(hcalm c hc).1, (hcalm c hc).2.1⟩, spoken_nil]
    simp [wordsAtTop]
  | false =>
    by_cases hopen : openParens sql = 0
    · obtain ⟨ts, hts, hspoken⟩ := exists_quiet_rowCap d limit hhides
      rw [hspoken, hopen, wordsAtTop_append, hts.wordsAtTop_eq, hts.openAfter_eq,
        List.nil_append, isCapped_rowCap]
      simp
    · have hnone : ')' ∉ (Region.code.after sql.toList).rest (" " ++ d.rowCap limit).toList :=
        fun h => (hcalm _ (Region.mem_rest h)).2.2 rfl
      rw [wordsAtTop_of_open hopen (not_mem_spoken hnone)]
      simp [hopen]

end

/-! ### The check -/

section

variable {d : Dialect} {sql checked : String} {rowLimit : UInt64} {selectOnly : Bool}

/-- What the check makes of a read. -/
theorem sanitize_of_isRead (hread : isRead sql = true) (hlimit : 0 < rowLimit) :
    d.sanitize sql rowLimit selectOnly =
      .ok (if isCapped sql then stripped sql
        else stripped sql ++ (" " ++ d.rowCap rowLimit.toNat)) := by
  have hne : (stripped sql).isEmpty = false := by
    rw [← Bool.not_eq_true]
    intro hempty
    have hnone : isRead "" = false := by decide +kernel
    rw [← isRead_stripped, String.isEmpty_iff.1 hempty, hnone] at hread
    cases hread
  simp only [Dialect.sanitize, hne, isRead_stripped, hread, isCapped_stripped, decide_eq_true hlimit,
    Bool.not_true, Bool.and_false, Bool.and_self, Bool.true_and, Bool.false_eq_true, if_false]
  cases isCapped sql with
  | true => rfl
  | false => simp [String.append_assoc]

/-- **A read that passes the check is limited exactly when it was limited before or what is left of
it without blanks and semicolons at its ends leads to code, outside of quotes, comments and
parentheses.**  A second check then adds nothing. -/
theorem isCapped_sanitize_iff (h : d.sanitize sql rowLimit selectOnly = .ok checked)
    (hread : isRead sql = true) (hlimit : 0 < rowLimit) :
    (isCapped checked = true ↔ isCapped sql = true ∨
      (Region.code.after (stripped sql).toList).hides = false ∧ openParens sql = 0) ∧
    (isCapped checked = true → d.sanitize checked rowLimit selectOnly = .ok (stripped checked)) := by
  rw [sanitize_of_isRead hread hlimit, Except.ok.injEq] at h
  have hchecked : isRead checked = true := by
    have hstripped : isRead (stripped sql) = true := by rw [isRead_stripped, hread]
    rw [← h]
    split
    · exact hstripped
    · exact isRead_append (apart_rowCap d _) hstripped
  refine ⟨?_, fun hcapped => ?_⟩
  · cases hcapped : isCapped sql with
    | true =>
      rw [hcapped, if_pos rfl] at h
      rw [← h, isCapped_stripped, hcapped]
      simp
    | false =>
      rw [hcapped, if_neg Bool.false_ne_true] at h
      rw [← h, isCapped_append_rowCap d _ (by rw [isCapped_stripped, hcapped]),
        openParens_stripped]
      simp
  · rw [sanitize_of_isRead hchecked hlimit, hcapped, if_pos rfl]

/-- A comment that is closed makes no difference. -/
theorem isCapped_sanitize_iff_closed :
    Dialect.sqlite.sanitize "SELECT 1 /* all */;" 5 false = .ok "SELECT 1 /* all */ LIMIT 5" ∧
    isRead "SELECT 1 /* all */;" = true ∧ (0 : UInt64) < 5 ∧
    isCapped "SELECT 1 /* all */ LIMIT 5" = true ∧
    Dialect.sqlite.sanitize "SELECT 1 /* all */ LIMIT 5" 5 false =
      .ok "SELECT 1 /* all */ LIMIT 5" := by
  have hcheck : Dialect.sqlite.sanitize "SELECT 1 /* all */;" 5 false =
      .ok "SELECT 1 /* all */ LIMIT 5" := by decide +kernel
  have hread : isRead "SELECT 1 /* all */;" = true := by decide +kernel
  obtain ⟨hiff, hagain⟩ := isCapped_sanitize_iff hcheck hread (by decide)
  have hcapped := hiff.2 (.inr (by decide +kernel))
  have hstripped : stripped "SELECT 1 /* all */ LIMIT 5" = "SELECT 1 /* all */ LIMIT 5" := by
    decide +kernel
  exact ⟨hcheck, hread, by decide, hcapped, by rw [hagain hcapped, hstripped]⟩

/-- The clause becomes part of a comment at the end of the statement. -/
theorem isCapped_sanitize_comment :
    ¬ ∀ (d : Dialect) (sql checked : String) (rowLimit : UInt64) (selectOnly : Bool),
      0 < rowLimit → d.sanitize sql rowLimit selectOnly = .ok checked → isRead sql = true →
        isCapped checked = true := by
  intro h
  have hcapped := h .db2 "SELECT * FROM t -- all" "SELECT * FROM t -- all FETCH FIRST 5 ROWS ONLY" 5
    false (by decide) (by decide +kernel) (by decide +kernel)
  revert hcapped
  decide +kernel

end

end BoundQuery
