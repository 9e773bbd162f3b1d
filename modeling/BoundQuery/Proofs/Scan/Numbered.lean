import BoundQuery.Proofs.Scan.Placeholder
import BoundQuery.Template.Positional

/-!
# Numbered placeholders stand for placeholders

Numbering the placeholders of a text goes token by token.  Seen from the text, it puts a number in
the place of every `?` that is a placeholder, and touches nothing else.

* `numbered` : a text with numbers at given places;
* `numberMarks` : the same along the marks of a reader, one character at a time;
* `positionalTokens_eq` : tokens whose marks a reader sees are numbered along these marks;
* `Region.count_numberMarks` : **the numbers leave a reader where the `?` would have left him, so no
  placeholder is left and none appears**;
* `positional_complete` : what numbering does to a text, and that it is stable.
-/

namespace BoundQuery

/-- A dollar sign and a number, counted from 1 where `index` is counted from 0. -/
def numberMark (index : Nat) : List Char := '$' :: (toString (index + 1)).toList

/-- The characters of a text, where the one at the first of the offsets is replaced by `$1`, the one
at the second by `$2` and so on. -/
def numbered (offsets : List Nat) (cs : List Char) : List Char :=
  cs.zipIdx.flatMap fun (c, i) => if i ∈ offsets then numberMark (offsets.idxOf i) else [c]

/-- The characters of a text, where the marked ones are replaced by numbers after `index`. -/
def numberMarks (index : Nat) : List Bool → List Char → List Char
  | mark :: marks, c :: cs =>
    if mark then numberMark index ++ numberMarks (index + 1) marks cs
    else c :: numberMarks index marks cs
  | _, _ => []

theorem toList_placeholder (index : Nat) :
    (Dialect.postgres.placeholder (index + 1)).toList = numberMark index := by
  rw [Dialect.placeholder, String.toList_append]
  rfl

theorem isCalm_numberMark {index : Nat} {c : Char} (h : c ∈ numberMark index) :
    Region.isCalm c = true ∧ c ≠ '?' := by
  rcases List.mem_cons.1 h with rfl | h
  · exact ⟨rfl, by decide⟩
  · rw [Nat.toString_eq_ofList_toDigits, String.toList_ofList] at h
    have hdigit := Nat.isDigit_of_mem_toDigits (by decide) (by decide) h
    exact isCalm_of_isNameChar (by simp [Token.isNameChar, Char.isAlphanum, hdigit])

/-! ### Tokens and marks -/

theorem numberMarks_append (index : Nat) {ms ns : List Bool} {as bs : List Char}
    (h : ms.length = as.length) :
    numberMarks index (ms ++ ns) (as ++ bs) =
      numberMarks index ms as ++ numberMarks (index + ms.count true) ns bs := by
  induction ms generalizing index as with
  | nil =>
    obtain rfl := List.length_eq_zero_iff.1 h.symm
    rfl
  | cons m ms ih =>
    cases as with
    | nil => simp at h
    | cons a as =>
      have hlen : ms.length = as.length := by simpa using h
      cases m with
      | true =>
        simp only [List.cons_append, numberMarks, ↓reduceIte, ih _ hlen, List.count_cons_self,
          List.append_assoc]
        rw [Nat.add_right_comm, Nat.add_assoc]
      | false => simp [numberMarks, ih _ hlen]

theorem numberMarks_replicate (index : Nat) (cs : List Char) :
    numberMarks index (List.replicate cs.length false) cs = cs := by
  induction cs with
  | nil => rfl
  | cons c cs ih =>
    rw [List.length_cons, List.replicate_succ]
    exact congrArg (c :: ·) ih

/-- Where there is one `?`, it is the one that is replaced. -/
theorem numberMarks_isMark (index : Nat) {cs : List Char} (h : cs.count '?' = 1) :
    numberMarks index (cs.map (· == '?')) cs = replaceMark (numberMark index) cs := by
  induction cs with
  | nil => cases h
  | cons c cs ih =>
    by_cases hc : c = '?'
    · subst hc
      have hrest : '?' ∉ cs := List.count_eq_zero.1 (by simpa using h)
      have hmap : cs.map (· == '?') = List.replicate cs.length false :=
        map_isMark_eq fun c hc => ne_of_mem_of_not_mem hc hrest
      simp [numberMarks, replaceMark, hmap, numberMarks_replicate]
    · have hcount : cs.count '?' = 1 := by simpa [hc] using h
      simp [numberMarks, replaceMark, hc, ih hcount]

theorem Token.length_marks (t : Token) : t.marks.length = t.source.length := by
  unfold Token.marks
  split <;> simp

/-- **Tokens whose marks a reader sees are numbered along these marks.** -/
theorem positionalTokens_eq {r : Region} {ts : List Token} (h : r.Reads ts) (index : Nat) :
    positionalTokens .postgres index ts =
      numberMarks index (ts.flatMap Token.marks) (ts.flatMap Token.source) := by
  induction ts generalizing r index with
  | nil => rfl
  | cons t ts ih =>
    obtain ⟨-, -, hsingle, hrest⟩ := h
    rw [List.flatMap_cons, List.flatMap_cons, numberMarks_append index t.length_marks,
      positionalTokens, toList_placeholder]
    cases ht : t.isPlaceholder with
    | true =>
      have hmarks : t.marks = t.source.map (· == '?') :=
        Region.Reads.marks_of_isPlaceholder ht
      rw [hmarks, numberMarks_isMark index (hsingle ht), count_map_isMark, hsingle ht,
        ← ih hrest]
      rfl
    | false =>
      rw [Region.Reads.marks_of_not_isPlaceholder ht, numberMarks_replicate,
        List.count_replicate, if_neg (by decide)]
      exact congrArg (t.source ++ ·) (ih hrest index)

/-! ### Places -/

/-- Numbering along marks is numbering at the places of the marks. -/
theorem numberMarks_eq_flatMap (index start : Nat) {ms : List Bool} {cs : List Char}
    (h : ms.length = cs.length) :
    numberMarks index ms cs =
      (cs.zipIdx start).flatMap fun (c, i) =>
        if i ∈ ms.findIdxs id start then numberMark (index + (ms.findIdxs id start).idxOf i)
        else [c] := by
  induction ms generalizing index start cs with
  | nil =>
    obtain rfl := List.length_eq_zero_iff.1 h.symm
    rfl
  | cons m ms ih =>
    cases cs with
    | nil => simp at h
    | cons c cs =>
      have hlen : ms.length = cs.length := by simpa using h
      -- The places of the other marks are behind `start`.
      have hlt : ∀ i ∈ ms.findIdxs id (start + 1), start < i := fun i hi =>
        List.ge_of_mem_findIdxs i hi
      have hne : ∀ p ∈ cs.zipIdx (start + 1), p.2 ≠ start := fun p hp =>
        Nat.ne_of_gt (List.le_snd_of_mem_zipIdx hp)
      rw [List.zipIdx_cons, List.flatMap_cons, List.findIdxs_cons]
      cases m with
      | true =>
        rw [numberMarks, if_pos rfl, ih (index + 1) (start + 1) hlen]
        simp only [id_eq, ↓reduceIte, List.mem_cons, true_or, List.idxOf_cons_self, Nat.add_zero]
        refine congrArg (numberMark index ++ ·) (List.flatMap_congr fun p hp => ?_)
        rw [List.idxOf_cons_ne _ (hne p hp).symm]
        simp only [hne p hp, false_or, Nat.add_assoc, Nat.add_comm 1]
      | false =>
        have hstart : start ∉ ms.findIdxs id (start + 1) := fun h =>
          Nat.lt_irrefl _ (hlt start h)
        rw [numberMarks, if_neg (by decide), ih index (start + 1) hlen]
        simp [hstart]

/-! ### No placeholder is left -/

/-- The numbers leave a reader where the `?` would have left him. -/
theorem Region.count_numberMarks (r : Region) (index : Nat) (cs : List Char) :
    r.count (numberMarks index (r.marks cs) cs) = 0 := by
  induction cs generalizing r index with
  | nil => rfl
  | cons c cs ih =>
    rw [marks_cons, numberMarks]
    cases hm : r.isCode && c == '?' with
    | true =>
      obtain ⟨hr, hc⟩ := Bool.and_eq_true_iff.1 hm
      obtain rfl := beq_iff_eq.1 hc
      have hafter : r.after (numberMark index) = r.next '?' := by
        have hne : numberMark index ≠ [] := List.cons_ne_nil _ _
        rw [after_calm hr hne fun c hc => (isCalm_numberMark hc).1, next_calm hr rfl]
      have hmark : r.count (numberMark index) = 0 :=
        r.count_eq_zero fun h => (isCalm_numberMark h).2 rfl
      rw [if_pos rfl, count_append, hmark, hafter, ih]
    | false =>
      rw [if_neg (by decide), count, marks_cons, hm]
      exact ih (r.next c) index

/-! ### Texts -/

theorem numbered_nil (cs : List Char) : numbered [] cs = cs := by
  have hkept : numbered [] cs = cs.zipIdx.flatMap fun p => [p.1] :=
    List.flatMap_congr fun p _ => if_neg List.not_mem_nil
  rw [hkept, ← List.map_eq_flatMap, List.zipIdx_map_fst]

theorem toList_positional (sql : String) :
    (Dialect.postgres.positional sql).toList =
      numberMarks 0 (Region.code.marks sql.toList) sql.toList := by
  have hreads : Region.code.Reads (tokens sql.toList) := Region.reads_tokens trivial
  rw [Dialect.positional, String.toList_ofList, positionalTokens_eq hreads 0, ← marks_tokens,
    flatMap_source_tokens]

/-- A text is numbered at the places of its placeholders. -/
theorem toList_positional_eq_numbered (sql : String) :
    (Dialect.postgres.positional sql).toList = numbered (placeholderOffsets sql) sql.toList := by
  rw [toList_positional, numberMarks_eq_flatMap 0 0 (Region.length_marks _ _), numbered,
    placeholderOffsets_eq]
  simp only [Nat.zero_add]

theorem placeholderCount_positional (sql : String) :
    placeholderCount (Dialect.postgres.positional sql) = 0 := by
  rw [placeholderCount_eq, toList_positional, Region.count_numberMarks]

/-- A text without placeholders is left as it is. -/
theorem positional_of_placeholderCount {sql : String} (h : placeholderCount sql = 0) :
    Dialect.postgres.positional sql = sql := by
  have hnil : placeholderOffsets sql = [] := by
    rw [← List.length_eq_zero_iff, length_placeholderOffsets, h]
  rw [← String.toList_inj, toList_positional_eq_numbered, hnil, numbered_nil]

/-- **Numbering is complete and stable.**  For stores that number their placeholders, the `?` of the
`j`-th placeholder is replaced by `$` and `j`, for as many `j` as there are placeholders, and every
other character is kept; no placeholder is left, so a second time changes nothing.  For all other
stores the text is kept. -/
theorem positional_complete (sql : String) :
    ((placeholderOffsets sql).length = placeholderCount sql ∧
        (placeholderOffsets sql).Pairwise (· < ·) ∧
        (∀ o ∈ placeholderOffsets sql, sql.toList[o]? = some '?') ∧
        (Dialect.postgres.positional sql).toList =
          numbered (placeholderOffsets sql) sql.toList) ∧
      placeholderCount (Dialect.postgres.positional sql) = 0 ∧
      Dialect.postgres.positional (Dialect.postgres.positional sql) =
        Dialect.postgres.positional sql ∧
      ∀ d : Dialect, d ≠ .postgres → d.positional sql = sql := by
  have hnone := placeholderCount_positional sql
  refine ⟨⟨length_placeholderOffsets sql, ?_, fun _ => getElem?_of_mem_placeholderOffsets,
    toList_positional_eq_numbered sql⟩, hnone, positional_of_placeholderCount hnone, ?_⟩
  · rw [placeholderOffsets_eq]
    exact List.pairwise_findIdxs
  · intro d hd
    cases d with
    | postgres => exact absurd rfl hd
    | _ => rfl

/-- The digits stand right before a word, and the `IN` list is one no more. -/
theorem positional_complete_fused :
    Dialect.postgres.positional "a = ?b AND c IN ( ? ) -- ?" = "a = $1b AND c IN ( $2 ) -- ?" ∧
      Dialect.postgres.positional "a = $1b AND c IN ( $2 ) -- ?" =
        "a = $1b AND c IN ( $2 ) -- ?" ∧
      Dialect.mysql ≠ .postgres ∧
      Dialect.mysql.positional "a = ?b AND c IN ( ? ) -- ?" = "a = ?b AND c IN ( ? ) -- ?" := by
  have hfirst : Dialect.postgres.positional "a = ?b AND c IN ( ? ) -- ?" =
      "a = $1b AND c IN ( $2 ) -- ?" := by decide +kernel
  obtain ⟨-, -, htwice, hother⟩ := positional_complete "a = ?b AND c IN ( ? ) -- ?"
  rw [hfirst] at htwice
  exact ⟨hfirst, htwice, by decide, hother .mysql (by decide)⟩

end BoundQuery
