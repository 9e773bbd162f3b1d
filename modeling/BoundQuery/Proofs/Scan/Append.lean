import BoundQuery.Proofs.Scan.Placeholder

/-!
# Tokens of a text that is continued

What is put behind a text is read in the region that the text leads to: it goes on with an open
quote or comment, and only what comes after its end has tokens of its own.

* `Region.rest` : what is left of a text behind the region in front of it;
* `Apart` : a text that goes on with no word and no placeholder in front of it;
* `Token.isSilent` : the tokens that hide their text, and `spoken` : all others of a text;
* `Token.next_append` : a token of a text that is continued is the one of the text, unless both are
  silent;
* `spoken_append` : **the spoken tokens of a text that is continued are those of the text and those
  of the rest.**
-/

namespace BoundQuery

open Text

namespace Region

/-- What is left of a text that continues the region. -/
def rest : Region → List Char → List Char
  | .escape, cs => cs.tail
  | .quoted q, cs => (Token.quotedRegion q cs).2
  | .quotedEscape q, cs => (Token.quotedRegion q cs.tail).2
  | .line, cs => cs.dropWhile (· ≠ '\n')
  | .block, cs => (Token.blockComment cs).2
  | .blockStar, cs => (Token.blockComment ('*' :: cs)).2
  | _, cs => cs

theorem rest_of_isCode {r : Region} (h : r.isCode = true) (cs : List Char) : r.rest cs = cs := by
  cases r <;> first | rfl | cases h

/-- A reader who is ready for a text has nothing to leave behind. -/
theorem Ready.rest_eq {r : Region} {c : Char} {cs : List Char} (h : r.Ready (c :: cs))
    (bs : List Char) : r.rest (c :: cs ++ bs) = c :: cs ++ bs := by
  cases r with
  | line =>
    obtain rfl : c = '\n' := h c rfl
    rfl
  | code | dash | slash => rfl
  | _ => cases h

/-! ### Open regions -/

theorem rest_quoted_cons (q c : Char) (cs : List Char) :
    (Region.quoted q).rest (c :: cs) = ((Region.quoted q).next c).rest cs := by
  by_cases hq : c = q
  · have hn : (Region.quoted q).next c = .code := by simp [next, hq]
    rw [hn]
    change (Token.quotedRegion q (c :: cs)).2 = cs
    cases cs with
    | nil => rfl
    | cons d cs => simp [Token.quotedRegion, hq]
  · by_cases hb : c = '\\'
    · have hn : (Region.quoted q).next c = .quotedEscape q := by rw [next, if_neg hq, if_pos hb]
      rw [hn]
      change (Token.quotedRegion q (c :: cs)).2 = (Token.quotedRegion q cs.tail).2
      cases cs with
      | nil => rfl
      | cons d cs =>
        rw [Token.quotedRegion, if_neg hq, if_pos hb]
        rfl
    · have hn : (Region.quoted q).next c = .quoted q := by simp [next, hq, hb]
      rw [hn]
      change (Token.quotedRegion q (c :: cs)).2 = (Token.quotedRegion q cs).2
      cases cs with
      | nil => rfl
      | cons d cs =>
        rw [Token.quotedRegion, if_neg hq, if_neg hb]

theorem rest_quotedEscape_cons (q c : Char) (cs : List Char) :
    (Region.quotedEscape q).rest (c :: cs) = (Region.quoted q).rest cs := rfl

/-- A quoted region that is continued. -/
theorem rest_quoted_append (q : Char) (cs bs : List Char) :
    (Region.quoted q).rest (cs ++ bs) =
      ((Region.quoted q).after (Token.quotedRegion q cs).1).rest
        ((Token.quotedRegion q cs).2 ++ bs) := by
  fun_induction Token.quotedRegion q cs with
  | case1 => rfl
  | case2 c => exact rest_quoted_cons q c bs
  | case3 d rest => exact rest_quoted_cons q q (d :: rest ++ bs)
  | case4 d rest region after h hc ih =>
    rw [h] at ih
    have hn : (Region.quoted q).next '\\' = .quotedEscape q := by simp [next, hc]
    rw [List.cons_append, rest_quoted_cons, hn, List.cons_append, rest_quotedEscape_cons, ih,
      after_cons, after_cons, hn]
    rfl
  | case5 c d rest hc hb region after h ih =>
    rw [h] at ih
    have hn : (Region.quoted q).next c = .quoted q := by simp [next, hc, hb]
    rw [List.cons_append, rest_quoted_cons, hn, ih, after_cons, hn]

theorem rest_block_cons {c : Char} (h : c ≠ '*') (cs : List Char) :
    Region.block.rest (c :: cs) = Region.block.rest cs := by
  change (Token.blockComment (c :: cs)).2 = (Token.blockComment cs).2
  cases cs with
  | nil => rfl
  | cons d cs => rw [Token.blockComment, if_neg fun hc => h hc.1]

theorem rest_blockStar_cons {c : Char} (h : c ≠ '/') (cs : List Char) :
    Region.blockStar.rest (c :: cs) = Region.block.rest (c :: cs) := by
  change (Token.blockComment ('*' :: c :: cs)).2 = (Token.blockComment (c :: cs)).2
  rw [Token.blockComment, if_neg fun hc => h hc.2]

theorem blockComment_cons (c : Char) (cs : List Char) :
    ∃ region, (Token.blockComment (c :: cs)).1 = c :: region := by
  cases cs with
  | nil => exact ⟨[], rfl⟩
  | cons d cs =>
    unfold Token.blockComment
    split
    · exact ⟨_, rfl⟩
    · exact ⟨_, rfl⟩

/-- A block comment that is continued. -/
theorem rest_block_append (cs bs : List Char) :
    Region.block.rest (cs ++ bs) =
      (Region.block.after (Token.blockComment cs).1).rest ((Token.blockComment cs).2 ++ bs) := by
  fun_induction Token.blockComment cs with
  | case1 => rfl
  | case2 c =>
    by_cases hc : c = '*'
    · subst hc
      rfl
    · rw [List.singleton_append, rest_block_cons hc, after_cons]
      simp [next, hc]
  | case3 c d rest hc =>
    obtain ⟨rfl, rfl⟩ := hc
    rfl
  | case4 c d rest hc region after h ih =>
    obtain ⟨tail, htail⟩ := blockComment_cons d rest
    rw [h] at ih htail
    subst htail
    by_cases hstar : c = '*'
    · -- The `*` makes no difference, as no `/` follows it.
      subst hstar
      have hd : d ≠ '/' := fun hd => hc ⟨rfl, hd⟩
      rw [after_cons] at ih
      change Region.blockStar.rest (d :: (rest ++ bs)) =
        (Region.blockStar.after (d :: tail)).rest (after ++ bs)
      rw [rest_blockStar_cons hd, after_cons, next_blockStar hd]
      exact ih
    · have hn : Region.block.next c = .block := by simp [next, hstar]
      rw [List.cons_append, rest_block_cons hstar, ih]
      change _ = ((Region.block.next c).after (d :: tail)).rest _
      rw [hn]

end Region

theorem dropWhile_append_dropWhile {α : Type} (p : α → Bool) (as bs : List α) :
    (as ++ bs).dropWhile p = (as.dropWhile p ++ bs).dropWhile p := by
  induction as with
  | nil => rfl
  | cons a as ih =>
    by_cases ha : p a = true
    · rw [List.cons_append, List.dropWhile_cons_of_pos ha, List.dropWhile_cons_of_pos ha, ih]
    · rw [List.dropWhile_cons_of_neg ha]

/-! ### Texts that stand apart -/

/-- Whether a character goes on with no token in front of it. -/
def breaks (c : Char) : Bool :=
  !isWordChar c && !Token.isNameChar c && c != '-' && c != '*' && c != ':'

/-- Whether a text goes on with no word and no placeholder in front of it. -/
structure Apart (cs : List Char) : Prop where
  /-- It does not begin with a character that could belong to what is in front. -/
  head : ∀ c, cs.head? = some c → breaks c = true
  /-- It has no parenthesis and no mark for an `IN` list in front. -/
  list : ∀ c, (cs.dropWhile Token.isListBlank).head? = some c → c ≠ '(' ∧ c ≠ '?' ∧ c ≠ ')'

variable {bs : List Char}

theorem takeWhile_append_of_head {p : Char → Bool} (h : ∀ c, bs.head? = some c → p c = false)
    (as : List Char) : (as ++ bs).takeWhile p = as.takeWhile p := by
  have hnil : bs.takeWhile p = [] := by
    cases bs with
    | nil => rfl
    | cons b bs => rw [List.takeWhile_cons, h b rfl]; rfl
  rw [List.takeWhile_append, hnil, List.append_nil]
  split
  · rename_i hlen
    exact ((List.takeWhile_prefix p).eq_of_length hlen).symm
  · rfl

theorem dropWhile_append_of_head {p : Char → Bool} (h : ∀ c, bs.head? = some c → p c = false)
    (as : List Char) : (as ++ bs).dropWhile p = as.dropWhile p ++ bs := by
  have hself : bs.dropWhile p = bs := by
    cases bs with
    | nil => rfl
    | cons b bs => rw [List.dropWhile_cons, h b rfl]; rfl
  rw [List.dropWhile_append]
  split
  · rename_i hnil
    rw [List.isEmpty_iff.1 hnil, hself]
    rfl
  · rfl

namespace Apart

theorem not_isWordChar (h : Apart bs) : ∀ c, bs.head? = some c → isWordChar c = false := by
  intro c hc
  have := h.head c hc
  simp only [breaks, Bool.and_eq_true, Bool.not_eq_true'] at this
  exact this.1.1.1.1

theorem not_isNameChar (h : Apart bs) :
    ∀ c, bs.head? = some c → Token.isNameChar c = false := by
  intro c hc
  have := h.head c hc
  simp only [breaks, Bool.and_eq_true, Bool.not_eq_true'] at this
  exact this.1.1.1.2

end Apart

namespace Token

theorem afterBlanks?_append {c : Char}
    (h : ∀ d, (bs.dropWhile isListBlank).head? = some d → d ≠ c) (as : List Char) :
    afterBlanks? c (as ++ bs) = (afterBlanks? c as).map fun (part, rest) => (part, rest ++ bs) := by
  unfold afterBlanks?
  cases has : as.dropWhile isListBlank with
  | nil =>
    rw [List.dropWhile_append, has]
    simp only [List.isEmpty_nil, if_true, Option.map_none]
    split
    · rename_i d rest hd
      rw [if_neg (h d (by rw [hd]; rfl))]
    · rfl
  | cons d rest =>
    have hlen : (as.takeWhile isListBlank).length ≠ as.length := by
      intro hlen
      have hsplit := congrArg List.length (List.takeWhile_append_dropWhile (p := isListBlank) (l := as))
      rw [has, List.length_append, List.length_cons] at hsplit
      omega
    rw [List.dropWhile_append, has, List.takeWhile_append, if_neg hlen]
    simp only [List.isEmpty_cons, Bool.false_eq_true, if_false, List.cons_append]
    split <;> rfl

theorem singleList?_append (h : Apart bs) (as : List Char) :
    singleList? (as ++ bs) = (singleList? as).map fun (list, rest) => (list, rest ++ bs) := by
  unfold singleList?
  rw [afterBlanks?_append fun d hd => (h.list d hd).1]
  cases afterBlanks? '(' as with
  | none => rfl
  | some p =>
    obtain ⟨opening, cs₁⟩ := p
    simp only [Option.map_some]
    rw [afterBlanks?_append fun d hd => (h.list d hd).2.1]
    cases afterBlanks? '?' cs₁ with
    | none => rfl
    | some p =>
      obtain ⟨mark, cs₂⟩ := p
      simp only [Option.map_some]
      rw [afterBlanks?_append fun d hd => (h.list d hd).2.2]
      cases afterBlanks? ')' cs₂ with
      | none => rfl
      | some p => rfl

theorem plain_apart (h : Apart bs) (c : Char) (rest : List Char) :
    plain c (rest ++ bs) = ((plain c rest).1, (plain c rest).2 ++ bs) := by
  unfold plain
  rw [takeWhile_append_of_head h.not_isWordChar, dropWhile_append_of_head h.not_isWordChar]
  split <;> rfl

/-- Whether a token hides its text: a quote, a comment or a character behind a backslash. -/
def isSilent : Token → Bool
  | .inert _ => true
  | .text ('\\' :: _) => true
  | _ => false

/-- How the first token of a text, with what follows it, is read when the text is continued. -/
structure Continues (bs : List Char) (t u : Token × List Char) : Prop where
  /-- It is the same, unless it hides its text. -/
  token : u.1 = t.1 ∨ (u.1.isSilent = true ∧ t.1.isSilent = true)
  /-- What follows is read in the region that the token leads to. -/
  rest : u.2 = (Region.code.after t.1.source).rest (t.2 ++ bs)

theorem Continues.of_isCode {t : Token} {cs : List Char}
    (h : (Region.code.after t.source).isCode = true) :
    Continues bs (t, cs) (t, cs ++ bs) :=
  ⟨.inl rfl, (Region.rest_of_isCode h _).symm⟩

theorem Continues.of_calm {t : Token} {cs : List Char} (hne : t.source ≠ [])
    (hc : ∀ c ∈ t.source, Region.isCalm c = true) : Continues bs (t, cs) (t, cs ++ bs) :=
  .of_isCode (by rw [Region.after_calm rfl hne hc]; rfl)

theorem isCode_after_plain {c : Char} (hq : ¬ (c = '\x27' ∨ c = '"')) (hb : c ≠ '\\')
    (cs : List Char) : (Region.code.after (plain c cs).1.source).isCode = true := by
  unfold plain
  split
  · rename_i hw
    rw [source, Region.after_calm rfl (List.cons_ne_nil _ _) fun d hd => ?_]
    · rfl
    · rcases List.mem_cons.1 hd with rfl | hd
      · exact (isCalm_of_isWordChar hw).1
      · exact (isCalm_of_isWordChar (List.mem_takeWhile_imp hd)).1
  · change (Region.ofCode c).isCode = true
    rw [Region.ofCode, if_neg hq, if_neg hb]
    split
    · rfl
    · split <;> rfl

theorem continues_plain (h : Apart bs) {c : Char} (hq : ¬ (c = '\x27' ∨ c = '"'))
    (hb : c ≠ '\\') (cs : List Char) : Continues bs (plain c cs) (plain c (cs ++ bs)) := by
  rw [plain_apart h]
  exact .of_isCode (isCode_after_plain hq hb cs)

/-- A text without a second character. -/
theorem continues_single (h : Apart bs) {c : Char} (hq : ¬ (c = '\x27' ∨ c = '"'))
    (hm : c ≠ '?') : Continues bs (next c []) (next c bs) := by
  have hnext : next c [] = plain c [] := by simp only [next, if_neg hq, if_neg hm]
  rw [hnext]
  by_cases hb : c = '\\'
  · subst hb
    cases bs with
    | nil =>
      rw [hnext]
      exact ⟨.inl rfl, rfl⟩
    | cons e bs => exact ⟨.inr ⟨rfl, rfl⟩, rfl⟩
  · suffices hplain : next c bs = plain c ([] ++ bs) by
      rw [hplain]
      exact continues_plain h hq hb []
    cases bs with
    | nil => exact hnext
    | cons e bs =>
      have hw := h.not_isWordChar e rfl
      have hn := h.not_isNameChar e rfl
      have he := h.head e rfl
      simp only [breaks, Bool.and_eq_true, bne_iff_ne] at he
      obtain ⟨⟨⟨-, h₁⟩, h₂⟩, h₃⟩ := he
      have hstart : isNameStart e = false := by
        rw [← Bool.not_eq_true]
        intro hs
        rw [isNameChar_of_isNameStart hs] at hn
        cases hn
      have hin : isIn c e = false := by
        rw [← Bool.not_eq_true]
        intro hi
        simp only [isIn, Bool.and_eq_true, Bool.or_eq_true, decide_eq_true_eq] at hi
        obtain ⟨-, rfl | rfl⟩ := hi <;> cases hw
      simp [next, hq, hm, h₁, h₂, h₃, hstart, hb, hin]

/-- **A token of a text that is continued is the one of the text, unless both hide their text.** -/
theorem next_append (h : Apart bs) (c : Char) (cs : List Char) :
    Continues bs (next c cs) (next c (cs ++ bs)) := by
  by_cases hq : c = '\x27' ∨ c = '"'
  · have hn : Region.code.next c = .quoted c := by rcases hq with rfl | rfl <;> rfl
    have hnext : ∀ cs, next c cs = (.inert (c :: (quotedRegion c cs).1), (quotedRegion c cs).2) :=
      fun cs => by simp only [next, if_pos hq]
    rw [hnext, hnext]
    refine ⟨.inr ⟨rfl, rfl⟩, ?_⟩
    rw [source, Region.after_cons, hn]
    exact Region.rest_quoted_append c cs bs
  by_cases hm : c = '?'
  · subst hm
    exact .of_isCode rfl
  cases cs with
  | nil => exact continues_single h hq hm
  | cons d more =>
    rw [List.cons_append]
    simp only [next, if_neg hq, if_neg hm]
    by_cases hline : c = '-' ∧ d = '-'
    · obtain ⟨rfl, rfl⟩ := hline
      refine ⟨.inr ⟨rfl, rfl⟩, ?_⟩
      have hstays : ∀ e ∈ more.takeWhile (· ≠ '\n'), Region.line.next e = .line := by
        intro e he
        have hne : e ≠ '\n' := by simpa using List.mem_takeWhile_imp he
        simp [Region.next, hne]
      change (more ++ bs).dropWhile _ = (Region.line.after _).rest _
      rw [(Region.marks_of_stays rfl hstays).2]
      exact dropWhile_append_dropWhile _ more bs
    by_cases hblock : c = '/' ∧ d = '*'
    · obtain ⟨rfl, rfl⟩ := hblock
      exact ⟨.inr ⟨rfl, rfl⟩, Region.rest_block_append more bs⟩
    simp only [if_neg hline, if_neg hblock]
    split
    · rename_i hcast
      obtain ⟨rfl, rfl⟩ := hcast
      exact .of_isCode rfl
    split
    · rename_i hname
      obtain ⟨rfl, hstart⟩ := hname
      rw [takeWhile_append_of_head h.not_isNameChar, dropWhile_append_of_head h.not_isNameChar]
      refine .of_calm (List.cons_ne_nil _ _) fun e he => ?_
      simp only [source, List.mem_cons] at he
      rcases he with rfl | rfl | he
      · rfl
      · exact (isCalm_of_isNameChar (isNameChar_of_isNameStart hstart)).1
      · exact (isCalm_of_isNameChar (List.mem_takeWhile_imp he)).1
    split
    · rename_i hb
      subst hb
      exact .of_isCode rfl
    rename_i hb
    have hplain := continues_plain h hq hb (d :: more)
    rw [List.cons_append] at hplain
    split
    · rename_i hin
      rw [singleList?_append h]
      cases hl : singleList? more with
      | none => exact hplain
      | some p =>
        obtain ⟨list, after⟩ := p
        have hlawful : Lawful (.inList (c :: d :: list)) after := lawful_inList hin hl
        refine .of_isCode ?_
        rw [hlawful.slot rfl]
        rfl
    · exact hplain

end Token

/-! ### Spoken tokens -/

/-- The tokens of a text that do not hide their text. -/
def spoken (cs : List Char) : List Token := (tokens cs).filter fun t => !t.isSilent

@[simp] theorem spoken_nil : spoken [] = [] := by rw [spoken, tokens]; rfl

theorem spoken_cons (c : Char) (cs : List Char) :
    spoken (c :: cs) =
      [(Token.next c cs).1].filter (fun t => !t.isSilent) ++ spoken (Token.next c cs).2 := by
  rw [spoken, tokens, ← List.singleton_append, List.filter_append]
  rfl

/-- **The spoken tokens of a text that is continued are those of the text and those of the rest.** -/
theorem spoken_append (h : Apart bs) (as : List Char) :
    spoken (as ++ bs) = spoken as ++ spoken ((Region.code.after as).rest bs) := by
  fun_induction tokens as with
  | case1 =>
    rw [spoken_nil]
    rfl
  | case2 c cs ih =>
    obtain ⟨htoken, hrest⟩ := Token.next_append h c cs
    have hfirst : [(Token.next c (cs ++ bs)).1].filter (fun t => !t.isSilent) =
        [(Token.next c cs).1].filter fun t => !t.isSilent := by
      rcases htoken with heq | ⟨hu, ht⟩
      · rw [heq]
      · simp [hu, ht]
    have hsource := Token.source_next c cs
    rw [List.cons_append, spoken_cons, spoken_cons, hfirst, hrest, List.append_assoc]
    refine congrArg _ ?_
    rw [← hsource]
    have hready := (Token.lawful_next c cs).ready
    cases hnext : (Token.next c cs).2 with
    | nil => rw [List.append_nil, spoken_nil]; rfl
    | cons d ds =>
      rw [hnext] at hready ih
      rw [hready.rest_eq, Region.after_append, hready.after_eq]
      exact ih

end BoundQuery
