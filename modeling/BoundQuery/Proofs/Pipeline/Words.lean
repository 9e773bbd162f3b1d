import BoundQuery.Proofs.Pipeline.Ends
import BoundQuery.Proofs.Scan.Append

/-!
# The words of a statement

The check of a statement looks at its words and at its parentheses.  Both are spoken tokens, so
what the check finds in a statement that is continued is known from the region that the statement
leads to.

* `openParens` : how many parentheses are open at the end of a text;
* `wordsAtTop_append` : words behind a text count as outside of parentheses only if none is open;
* `Quiet` : tokens without words and parentheses, such as those of blanks and semicolons
  (`quiet_spoken_of_gaps`);
* `exists_quiet_stripped` : **a statement and what is left of it without blanks and semicolons at
  its ends have the same spoken tokens, quiet ones aside**, and so the same words
  (`codeWords_stripped`, `topWords_stripped`) and the same open parentheses
  (`openParens_stripped`).
-/

namespace BoundQuery

open Text

/-! ### Words and parentheses -/

theorem Token.word?_of_isSilent {t : Token} (h : t.isSilent = true) : t.word? = none := by
  unfold Token.isSilent at h
  split at h
  · rfl
  · rfl
  · cases h

/-- How many parentheses are open behind tokens, where `depth` of them are open in front. -/
def openAfter (depth : Nat) : List Token → Nat
  | [] => depth
  | t :: rest =>
    if t = .text ['('] then openAfter (depth + 1) rest
    else if t = .text [')'] then openAfter (depth - 1) rest
    else openAfter depth rest

/-- How many parentheses are open at the end of a text. -/
def openParens (sql : String) : Nat := openAfter 0 (tokens sql.toList)

theorem wordsAtTop_append (depth : Nat) (ts us : List Token) :
    wordsAtTop depth (ts ++ us) =
      wordsAtTop depth ts ++ wordsAtTop (openAfter depth ts) us := by
  induction ts generalizing depth with
  | nil => rfl
  | cons t ts ih =>
    simp only [List.cons_append, wordsAtTop, openAfter]
    split
    · exact ih _
    split
    · exact ih _
    split
    · rw [ih, List.append_assoc]
    · exact ih _

theorem openAfter_append (depth : Nat) (ts us : List Token) :
    openAfter depth (ts ++ us) = openAfter (openAfter depth ts) us := by
  induction ts generalizing depth with
  | nil => rfl
  | cons t ts ih =>
    simp only [List.cons_append, openAfter]
    split
    · exact ih _
    split
    · exact ih _
    · exact ih _

/-- Where a parenthesis is open, words count only if one is closed. -/
theorem wordsAtTop_of_open {depth : Nat} (hd : depth ≠ 0) {ts : List Token}
    (h : .text [')'] ∉ ts) : wordsAtTop depth ts = [] := by
  induction ts generalizing depth with
  | nil => rfl
  | cons t ts ih =>
    rw [List.mem_cons, not_or] at h
    rw [wordsAtTop, if_neg (Ne.symm h.1), if_neg hd]
    split
    · exact ih (Nat.succ_ne_zero _) h.2
    · exact ih hd h.2

/-! ### Tokens without words -/

/-- Whether the tokens have no words and no parentheses. -/
def Quiet (ts : List Token) : Prop :=
  ∀ t ∈ ts, t.word? = none ∧ t ≠ .text ['('] ∧ t ≠ .text [')']

namespace Quiet

variable {ts : List Token}

theorem words (h : Quiet ts) : ts.filterMap Token.word? = [] :=
  List.filterMap_eq_nil_iff.2 fun t ht => (h t ht).1

theorem openAfter_eq (h : Quiet ts) (depth : Nat) : openAfter depth ts = depth := by
  induction ts with
  | nil => rfl
  | cons t ts ih =>
    obtain ⟨-, hopen, hclose⟩ := h t List.mem_cons_self
    rw [openAfter, if_neg hopen, if_neg hclose]
    exact ih fun u hu => h u (List.mem_cons_of_mem _ hu)

theorem wordsAtTop_eq (h : Quiet ts) (depth : Nat) : wordsAtTop depth ts = [] := by
  induction ts with
  | nil => rfl
  | cons t ts ih =>
    obtain ⟨hword, hopen, hclose⟩ := h t List.mem_cons_self
    have hrest := ih fun u hu => h u (List.mem_cons_of_mem _ hu)
    rw [wordsAtTop, if_neg hopen, if_neg hclose, hword, hrest]
    split <;> rfl

end Quiet

theorem Token.quiet_of_isSilent {t : Token} (h : t.isSilent = true) :
    t.word? = none ∧ t ≠ .text ['('] ∧ t ≠ .text [')'] := by
  refine ⟨Token.word?_of_isSilent h, ?_, ?_⟩
  · rintro rfl
    cases h
  · rintro rfl
    cases h

/-- Silent tokens make no difference for the check. -/
theorem wordsAtTop_spoken (depth : Nat) (ts : List Token) :
    wordsAtTop depth (ts.filter fun t => !t.isSilent) = wordsAtTop depth ts ∧
      openAfter depth (ts.filter fun t => !t.isSilent) = openAfter depth ts := by
  induction ts generalizing depth with
  | nil => exact ⟨rfl, rfl⟩
  | cons t ts ih =>
    cases hs : t.isSilent with
    | true =>
      obtain ⟨hword, hopen, hclose⟩ := Token.quiet_of_isSilent hs
      rw [List.filter_cons_of_neg (by simp [hs]), (ih depth).1, (ih depth).2, wordsAtTop, openAfter,
        if_neg hopen, if_neg hclose, if_neg hopen, if_neg hclose, hword]
      exact ⟨by split <;> rfl, rfl⟩
    | false =>
      rw [List.filter_cons_of_pos (by simp [hs])]
      simp only [wordsAtTop, openAfter]
      split
      · exact ih _
      split
      · exact ih _
      · exact ⟨by rw [(ih depth).1], (ih depth).2⟩

theorem topWords_eq (sql : String) : topWords sql = wordsAtTop 0 (spoken sql.toList) :=
  (wordsAtTop_spoken 0 _).1.symm

theorem openParens_eq (sql : String) : openParens sql = openAfter 0 (spoken sql.toList) :=
  (wordsAtTop_spoken 0 _).2.symm

theorem codeWords_eq (sql : String) :
    codeWords sql = (spoken sql.toList).filterMap Token.word? := by
  rw [spoken, codeWords, List.filterMap_filter]
  refine List.filterMap_congr fun t _ => ?_
  cases hs : t.isSilent with
  | true => simp [Token.word?_of_isSilent hs]
  | false => simp

/-! ### Blanks and semicolons -/

theorem breaks_of_isGap {c : Char} (h : isGap c = true) : breaks c = true := by
  rcases Bool.or_eq_true_iff.1 h with h | h
  · rw [← Char.ofNat_toNat c]
    exact CodeRanges.all_of_mem (p := fun n => breaks (Char.ofNat n)) h (by decide +kernel)
  · obtain rfl : c = ';' := by simpa using h
    rfl

theorem ne_of_isGap {c d : Char} (hc : isGap c = true) (hd : isGap d = false) : c ≠ d := by
  rintro rfl
  rw [hc] at hd
  cases hd

theorem next_of_isGap {c : Char} (h : isGap c = true) (cs : List Char) :
    Token.next c cs = (.text [c], cs) := by
  have hb := breaks_of_isGap h
  simp only [breaks, Bool.and_eq_true, Bool.not_eq_true', bne_iff_ne] at hb
  obtain ⟨⟨⟨⟨hw, -⟩, h₁⟩, -⟩, h₂⟩ := hb
  have hin : ∀ d, Token.isIn c d = false := by
    intro d
    rw [← Bool.not_eq_true]
    intro hi
    simp only [Token.isIn, Bool.and_eq_true, Bool.or_eq_true, decide_eq_true_eq] at hi
    obtain ⟨rfl | rfl, -⟩ := hi <;> cases hw
  have hplain : Token.plain c cs = (.text [c], cs) := by simp [Token.plain, hw]
  have h₃ := ne_of_isGap (d := '\x27') h rfl
  have h₄ := ne_of_isGap (d := '"') h rfl
  have h₅ := ne_of_isGap (d := '?') h rfl
  have h₆ := ne_of_isGap (d := '/') h rfl
  have h₇ := ne_of_isGap (d := '\\') h rfl
  cases cs with
  | nil => simp [Token.next, h₃, h₄, h₅, hplain]
  | cons d cs => simp [Token.next, h₁, h₂, h₃, h₄, h₅, h₆, h₇, hin, hplain]

theorem apart_of_gaps {cs : List Char} (h : ∀ c ∈ cs, isGap c = true) : Apart cs where
  head c hc := breaks_of_isGap (h c (List.mem_of_mem_head? hc))
  list c hc := by
    have hgap := h c ((List.dropWhile_sublist _).mem (List.mem_of_mem_head? hc))
    exact ⟨ne_of_isGap hgap rfl, ne_of_isGap hgap rfl, ne_of_isGap hgap rfl⟩

theorem quiet_of_isGap {c : Char} (h : isGap c = true) : Quiet [.text [c]] := by
  intro t ht
  obtain rfl := List.mem_singleton.1 ht
  refine ⟨?_, ?_, ?_⟩
  · have hw := breaks_of_isGap h
    simp only [breaks, isWordChar, isAlphanumeric, Bool.and_eq_true, Bool.not_eq_true',
      Bool.or_eq_false_iff] at hw
    rw [Token.word?, hw.1.1.1.1.1.1]
    rfl
  · simpa using ne_of_isGap (d := '(') h rfl
  · simpa using ne_of_isGap (d := ')') h rfl

/-- Blanks and semicolons have no words, whatever follows them. -/
theorem exists_quiet_of_gaps {cs : List Char} (h : ∀ c ∈ cs, isGap c = true) (ds : List Char) :
    ∃ ts, Quiet ts ∧ spoken (cs ++ ds) = ts ++ spoken ds := by
  induction cs with
  | nil => exact ⟨[], nofun, rfl⟩
  | cons c cs ih =>
    obtain ⟨ts, hts, heq⟩ := ih fun d hd => h d (List.mem_cons_of_mem _ hd)
    have hgap := h c List.mem_cons_self
    refine ⟨[.text [c]].filter (fun t => !t.isSilent) ++ ts, fun t ht => ?_, ?_⟩
    · rcases List.mem_append.1 ht with ht | ht
      · exact quiet_of_isGap hgap t (List.mem_of_mem_filter ht)
      · exact hts t ht
    · rw [List.cons_append, spoken_cons, next_of_isGap hgap, heq, List.append_assoc]

theorem quiet_spoken_of_gaps {cs : List Char} (h : ∀ c ∈ cs, isGap c = true) :
    Quiet (spoken cs) := by
  obtain ⟨ts, hts, heq⟩ := exists_quiet_of_gaps h []
  rw [List.append_nil, spoken_nil, List.append_nil] at heq
  rwa [heq]

/-- What is left of a text behind a region are characters of the text. -/
theorem Region.mem_rest {r : Region} {c : Char} {cs : List Char} (h : c ∈ r.rest cs) : c ∈ cs := by
  have hquoted : ∀ {q : Char} {ds : List Char}, c ∈ (Token.quotedRegion q ds).2 → c ∈ ds := by
    intro q ds hc
    rw [← Token.quotedRegion_append q ds]
    exact List.mem_append_right _ hc
  have hblock : ∀ {ds : List Char}, c ∈ (Token.blockComment ds).2 → c ∈ ds := by
    intro ds hc
    rw [← Token.blockComment_append ds]
    exact List.mem_append_right _ hc
  cases r with
  | code | dash | slash => exact h
  | escape => exact List.mem_of_mem_tail h
  | quoted q => exact hquoted h
  | quotedEscape q => exact List.mem_of_mem_tail (hquoted h)
  | line => exact (List.dropWhile_sublist _).mem h
  | block => exact hblock h
  | blockStar =>
    cases cs with
    | nil => cases h
    | cons d ds =>
      by_cases hd : d = '/'
      · subst hd
        exact List.mem_cons_of_mem _ h
      · rw [Region.rest_blockStar_cons hd] at h
        exact hblock h

/-! ### Both ends of a statement -/

/-- **A statement without blanks and semicolons at its ends has the same spoken tokens, quiet ones
aside.** -/
theorem exists_quiet_stripped (sql : String) :
    ∃ front back, Quiet front ∧ Quiet back ∧
      spoken sql.toList = front ++ spoken (stripped sql).toList ++ back := by
  obtain ⟨front, back, hgap, hsplit⟩ := exists_stripped sql
  have hback : ∀ c ∈ back, isGap c = true := fun c hc => hgap c (List.mem_append_right _ hc)
  obtain ⟨ts, hts, hspoken⟩ := exists_quiet_of_gaps
    (fun c hc => hgap c (List.mem_append_left _ hc)) ((stripped sql).toList ++ back)
  have hend := spoken_append (apart_of_gaps hback) (stripped sql).toList
  refine ⟨ts, spoken ((Region.code.after (stripped sql).toList).rest back), hts,
    quiet_spoken_of_gaps fun c hc => hback c (Region.mem_rest hc), ?_⟩
  rw [hsplit, List.append_assoc, hspoken, hend, List.append_assoc]

theorem codeWords_stripped (sql : String) : codeWords (stripped sql) = codeWords sql := by
  obtain ⟨front, back, hfront, hback, hspoken⟩ := exists_quiet_stripped sql
  rw [codeWords_eq sql, hspoken, List.filterMap_append, List.filterMap_append, hfront.words,
    hback.words, List.append_nil, List.nil_append, codeWords_eq]

theorem topWords_stripped (sql : String) : topWords (stripped sql) = topWords sql := by
  obtain ⟨front, back, hfront, hback, hspoken⟩ := exists_quiet_stripped sql
  rw [topWords_eq sql, hspoken, wordsAtTop_append, wordsAtTop_append, hfront.wordsAtTop_eq,
    hback.wordsAtTop_eq, hfront.openAfter_eq, List.append_nil, List.nil_append, topWords_eq]

theorem openParens_stripped (sql : String) : openParens (stripped sql) = openParens sql := by
  obtain ⟨front, back, hfront, hback, hspoken⟩ := exists_quiet_stripped sql
  rw [openParens_eq sql, hspoken, openAfter_append, openAfter_append, hback.openAfter_eq,
    hfront.openAfter_eq, openParens_eq]

end BoundQuery
