import BoundQuery.Proofs.Pipeline.Words
import Mathlib.Data.List.Infix

/-!
# Parentheses

Which words of a statement count depends on how many parentheses are open in front of them, and only
those parentheses count that are read as code.

* `nesting?`, `Nested` : what is open behind a text, and texts whose parentheses close each other;
* `Region.parens` : the parentheses of a text that are read as code; `parens_tokens` shows that
  **they are those of the tokens**, and `openParens_eq_behind` how many of them are open at the end;
* `Sealed` : texts that a reader leaves as it entered them, in code and with as many parentheses
  open, and that never close a parenthesis in front of them; what is put together from sealed texts
  is sealed (`Sealed.append`, `Sealed.intercalate`, `Sealed.enclosed`);
* `Sealed.topWords_enclosed` : **a sealed text in parentheses has no word outside of parentheses**;
* `Neat` : texts from outside that hide nothing and whose parentheses close each other;
  `Neat.sealed` shows that **such a text is sealed once it is in parentheses.**
-/

namespace BoundQuery

open Text

/-- Whether a character is a parenthesis. -/
def isParen (c : Char) : Bool := c = '(' || c = ')'

/-- How many parentheses are open behind a text, where `depth` of them are open in front.  There is
no answer if one is closed that is not open. -/
def nesting? : Nat → List Char → Option Nat
  | depth, [] => some depth
  | depth, '(' :: cs => nesting? (depth + 1) cs
  | 0, ')' :: _ => none
  | depth + 1, ')' :: cs => nesting? depth cs
  | depth, _ :: cs => nesting? depth cs

/-- Whether the parentheses of a text close each other. -/
def Nested (cs : List Char) : Prop := nesting? 0 cs = some 0

instance (cs : List Char) : Decidable (Nested cs) := inferInstanceAs (Decidable (_ = _))

/-- How many parentheses are open behind a text, where a parenthesis that closes none does not
count. -/
def openBehind : Nat → List Char → Nat
  | depth, [] => depth
  | depth, '(' :: cs => openBehind (depth + 1) cs
  | depth, ')' :: cs => openBehind (depth - 1) cs
  | depth, _ :: cs => openBehind depth cs

/-! ### Depths -/

theorem paren_cases (c : Char) : c = '(' ∨ c = ')' ∨ isParen c = false := by
  by_cases hopen : c = '('
  · exact .inl hopen
  by_cases hclose : c = ')'
  · exact .inr (.inl hclose)
  · exact .inr (.inr (by simp [isParen, hopen, hclose]))

theorem nesting?_cons {c : Char} (h : isParen c = false) (depth : Nat) (cs : List Char) :
    nesting? depth (c :: cs) = nesting? depth cs := by
  have hopen : c ≠ '(' := by
    rintro rfl
    cases h
  have hclose : c ≠ ')' := by
    rintro rfl
    cases h
  rw [nesting?]
  · exact hopen
  · exact fun _ => hclose
  · exact fun _ _ => hclose

theorem openBehind_cons {c : Char} (h : isParen c = false) (depth : Nat) (cs : List Char) :
    openBehind depth (c :: cs) = openBehind depth cs := by
  rw [openBehind]
  · rintro rfl
    cases h
  · rintro rfl
    cases h

theorem nesting?_append (depth : Nat) (as bs : List Char) :
    nesting? depth (as ++ bs) = (nesting? depth as).bind fun n => nesting? n bs := by
  induction as generalizing depth with
  | nil => rfl
  | cons c as ih =>
    rcases paren_cases c with rfl | rfl | hc
    · exact ih (depth + 1)
    · cases depth with
      | zero => rfl
      | succ depth => exact ih depth
    · rw [List.cons_append, nesting?_cons hc, nesting?_cons hc]
      exact ih depth

/-- What is open further out makes no difference. -/
theorem nesting?_add {depth n : Nat} {cs : List Char} (h : nesting? depth cs = some n) (k : Nat) :
    nesting? (depth + k) cs = some (n + k) := by
  induction cs generalizing depth with
  | nil =>
    cases h
    rfl
  | cons c cs ih =>
    rcases paren_cases c with rfl | rfl | hc
    · have hstep : nesting? (depth + 1 + k) cs = some (n + k) := ih h
      rwa [Nat.add_right_comm] at hstep
    · cases depth with
      | zero => cases h
      | succ depth =>
        rw [Nat.succ_add]
        exact ih h
    · rw [nesting?_cons hc] at h ⊢
      exact ih h

theorem openBehind_of_nesting? {depth n : Nat} {cs : List Char} (h : nesting? depth cs = some n) :
    openBehind depth cs = n := by
  induction cs generalizing depth with
  | nil => exact Option.some.inj h
  | cons c cs ih =>
    rcases paren_cases c with rfl | rfl | hc
    · have hopen : nesting? (depth + 1) cs = some n := h
      exact ih hopen
    · cases depth with
      | zero => cases h
      | succ depth => exact ih h
    · rw [nesting?_cons hc] at h
      rw [openBehind_cons hc]
      exact ih h

theorem openBehind_append (depth : Nat) (as bs : List Char) :
    openBehind depth (as ++ bs) = openBehind (openBehind depth as) bs := by
  induction as generalizing depth with
  | nil => rfl
  | cons c as ih =>
    rcases paren_cases c with rfl | rfl | hc
    · exact ih (depth + 1)
    · exact ih (depth - 1)
    · rw [List.cons_append, openBehind_cons hc, openBehind_cons hc]
      exact ih depth

theorem nesting?_filter (depth : Nat) (cs : List Char) :
    nesting? depth (cs.filter isParen) = nesting? depth cs := by
  induction cs generalizing depth with
  | nil => rfl
  | cons c cs ih =>
    rcases paren_cases c with rfl | rfl | hc
    · exact ih (depth + 1)
    · cases depth with
      | zero => rfl
      | succ depth => exact ih depth
    · rw [List.filter_cons_of_neg (by simp [hc]), nesting?_cons hc]
      exact ih depth

namespace Nested

variable {as bs : List Char}

theorem append (ha : Nested as) (hb : Nested bs) : Nested (as ++ bs) := by
  rw [Nested, nesting?_append, ha]
  exact hb

theorem enclosed (h : Nested as) : Nested ('(' :: (as ++ [')'])) := by
  have hinner : nesting? 1 as = some 1 := nesting?_add h 1
  simp [Nested, nesting?, nesting?_append, hinner]

theorem openBehind_eq (h : Nested as) (depth : Nat) : openBehind depth as = depth := by
  have hdepth := nesting?_add h depth
  rw [Nat.zero_add] at hdepth
  exact openBehind_of_nesting? hdepth

/-- Inside of parentheses, no part of the text comes out of them. -/
theorem openBehind_pos (h : Nested (as ++ bs)) (depth : Nat) : openBehind (depth + 1) as ≠ 0 := by
  rw [Nested, nesting?_append, Option.bind_eq_some_iff] at h
  obtain ⟨n, hn, -⟩ := h
  have hdepth := nesting?_add hn (depth + 1)
  rw [Nat.zero_add] at hdepth
  rw [openBehind_of_nesting? hdepth]
  omega

end Nested

/-! ### Parentheses that count -/

namespace Region

/-- The parentheses of a text that are read as code. -/
def parens : Region → List Char → List Char
  | _, [] => []
  | r, c :: cs => if r.isCode && isParen c then c :: (r.next c).parens cs else (r.next c).parens cs

theorem parens_cons_of_code {r : Region} {c : Char} (h : (r.isCode && isParen c) = true)
    (cs : List Char) : r.parens (c :: cs) = c :: (r.next c).parens cs := by
  rw [parens, if_pos h]

theorem parens_cons_of_not {r : Region} {c : Char} (h : (r.isCode && isParen c) = false)
    (cs : List Char) : r.parens (c :: cs) = (r.next c).parens cs := by
  rw [parens, if_neg (by simp [h])]

theorem parens_append (r : Region) (as bs : List Char) :
    r.parens (as ++ bs) = r.parens as ++ (r.after as).parens bs := by
  induction as generalizing r with
  | nil => rfl
  | cons a as ih =>
    simp only [List.cons_append, parens, after_cons, ih]
    split <;> rfl

/-- A reader who is ready for a text reads its front as code. -/
theorem Ready.parens_front {r : Region} {as bs : List Char} (h : r.Ready (as ++ bs)) :
    r.parens as = Region.code.parens as := by
  cases as with
  | nil => rfl
  | cons c as =>
    have hready : r.Ready (c :: (as ++ bs)) := h
    obtain ⟨hn, hc⟩ := hready.next_eq
    rw [parens, parens, hn]
    rcases hc with hc | rfl
    · rw [hc]
      rfl
    · simp [isParen]

theorem Ready.parens_eq {r : Region} {cs : List Char} (h : r.Ready cs) :
    r.parens cs = Region.code.parens cs := by
  rw [← List.append_nil cs] at h
  exact h.parens_front

theorem parens_calm {r : Region} {cs : List Char} (hr : r.isCode = true)
    (hc : ∀ c ∈ cs, isCalm c = true) : r.parens cs = cs.filter isParen := by
  induction cs generalizing r with
  | nil => rfl
  | cons c cs ih =>
    have hrest := ih (r := .code) rfl fun d hd => hc d (List.mem_cons_of_mem _ hd)
    rw [parens, next_calm hr (hc c List.mem_cons_self), hr, Bool.true_and, hrest, List.filter_cons]

/-- No parenthesis counts as long as the reader stays where nothing is code. -/
theorem parens_of_stays {r : Region} {cs : List Char} (hr : r.isCode = false)
    (hs : ∀ c ∈ cs, r.next c = r) : r.parens cs = [] := by
  induction cs with
  | nil => rfl
  | cons c cs ih =>
    rw [parens_cons_of_not (by simp [hr]), hs c List.mem_cons_self]
    exact ih fun d hd => hs d (List.mem_cons_of_mem _ hd)

theorem parens_quotedRegion (q : Char) (hq : q ≠ '\\') (cs : List Char) :
    (Region.quoted q).parens (Token.quotedRegion q cs).1 = [] := by
  fun_induction Token.quotedRegion q cs with
  | case1 => rfl
  | case2 => rfl
  | case3 => rfl
  | case4 d rest region after h hc ih =>
    rw [h] at ih
    have hn : (Region.quoted q).next '\\' = .quotedEscape q := by simp [next, hq.symm]
    rw [parens_cons_of_not rfl, hn, parens_cons_of_not rfl]
    exact ih
  | case5 c d rest hc hb region after h ih =>
    rw [h] at ih
    have hn : (Region.quoted q).next c = .quoted q := by simp [next, hc, hb]
    rw [parens_cons_of_not rfl, hn]
    exact ih

/-- The second part is for a reader who has met a `*` right before. -/
theorem parens_blockComment (cs : List Char) :
    Region.block.parens (Token.blockComment cs).1 = [] ∧
      (cs.head? ≠ some '/' → Region.blockStar.parens (Token.blockComment cs).1 = []) := by
  fun_induction Token.blockComment cs with
  | case1 => exact ⟨rfl, fun _ => rfl⟩
  | case2 c => exact ⟨rfl, fun _ => rfl⟩
  | case3 c d rest hc =>
    obtain ⟨rfl, rfl⟩ := hc
    exact ⟨rfl, fun _ => rfl⟩
  | case4 c d rest hc region after h ih =>
    simp only [h] at ih
    have key : (Region.block.next c).parens region = [] := by
      by_cases hstar : c = '*'
      · subst hstar
        refine ih.2 fun hd => hc ⟨rfl, ?_⟩
        simpa using hd
      · have hn : Region.block.next c = .block := by simp [next, hstar]
        rw [hn]
        exact ih.1
    refine ⟨key, fun hne => ?_⟩
    rw [parens_cons_of_not rfl, next_blockStar (by simpa using hne)]
    exact key

end Region

namespace Token

/-- The parentheses of a token. -/
def parens : Token → List Char
  | .text [c] => if isParen c then [c] else []
  | .inList _ => ['(', ')']
  | _ => []

theorem isParen_of_isListBlank {c : Char} (h : isListBlank c = true) : isParen c = false := by
  simp only [isListBlank, Bool.or_eq_true, decide_eq_true_eq] at h
  rcases h with ((rfl | rfl) | rfl) | rfl <;> rfl

theorem isParen_of_isWordChar {c : Char} (h : isWordChar c = true) : isParen c = false := by
  rcases paren_cases c with rfl | rfl | hc
  · cases h
  · cases h
  · exact hc

theorem isParen_of_isNameChar {c : Char} (h : isNameChar c = true) : isParen c = false := by
  rcases paren_cases c with rfl | rfl | hc
  · cases h
  · cases h
  · exact hc

theorem parens_inList {c d : Char} {more list after : List Char} (hin : isIn c d = true)
    (hlist : singleList? more = some (list, after)) :
    Region.code.parens (c :: d :: list) = ['(', ')'] := by
  obtain ⟨-, as, bs, ds, hblank, rfl⟩ := singleList?_eq_some hlist
  obtain ⟨hc, hd⟩ := isCalm_of_isIn hin
  have hword : [c, d].filter isParen = [] := by
    simp only [isIn, Bool.and_eq_true, Bool.or_eq_true, decide_eq_true_eq] at hin
    obtain ⟨rfl | rfl, rfl | rfl⟩ := hin <;> rfl
  have hnone : ∀ l : List Char, (∀ e ∈ l, e ∈ as ++ bs ++ ds) → l.filter isParen = [] := by
    intro l hl
    rw [List.filter_eq_nil_iff]
    intro e he
    rw [isParen_of_isListBlank (hblank e (hl e he))]
    exact Bool.false_ne_true
  have hcalm : ∀ e ∈ c :: d :: (as ++ ['('] ++ (bs ++ ['?']) ++ (ds ++ [')'])),
      Region.isCalm e = true := by
    intro e he
    simp only [List.mem_cons, List.mem_append, List.not_mem_nil, or_false] at he hblank
    rcases he with rfl | rfl | (((he | rfl) | he | rfl) | he | rfl)
    · exact hc.1
    · exact hd.1
    · exact (isCalm_of_isListBlank (hblank e (.inl (.inl he)))).1
    · rfl
    · exact (isCalm_of_isListBlank (hblank e (.inl (.inr he)))).1
    · rfl
    · exact (isCalm_of_isListBlank (hblank e (.inr he))).1
    · rfl
  rw [Region.parens_calm rfl hcalm]
  have has := hnone as fun e he => by simp [he]
  have hbs := hnone bs fun e he => by simp [he]
  have hds := hnone ds fun e he => by simp [he]
  change ([c, d] ++ (as ++ ['('] ++ (bs ++ ['?']) ++ (ds ++ [')']))).filter isParen = _
  simp only [List.filter_append, hword, has, hbs, hds]
  rfl

/-- A word has no parenthesis. -/
theorem parens_word {cs : List Char} (hcalm : ∀ c ∈ cs, Region.isCalm c = true)
    (hparen : ∀ c ∈ cs, isParen c = false) : Region.code.parens cs = [] := by
  rw [Region.parens_calm rfl hcalm, List.filter_eq_nil_iff]
  intro c hc
  rw [hparen c hc]
  exact Bool.false_ne_true

theorem parens_text_of_none {cs : List Char} (h : ∀ c ∈ cs, isParen c = false) :
    (Token.text cs).parens = [] := by
  unfold parens
  split
  · rename_i c hc
    obtain rfl := Token.text.inj hc
    rw [if_neg (by simp [h c (List.mem_singleton_self c)])]
  · rename_i hc
    cases hc
  · rfl

theorem parens_plain (c : Char) (rest : List Char) :
    Region.code.parens (plain c rest).1.source = (plain c rest).1.parens := by
  unfold plain
  split
  · rename_i hw
    have hall : ∀ d ∈ c :: rest.takeWhile isWordChar, isWordChar d = true := by
      intro d hd
      rcases List.mem_cons.1 hd with rfl | hd
      · exact hw
      · exact List.mem_takeWhile_imp hd
    have hparen := fun d hd => isParen_of_isWordChar (hall d hd)
    rw [parens_text_of_none hparen]
    exact parens_word (fun d hd => (isCalm_of_isWordChar (hall d hd)).1) hparen
  · rfl

/-- The parentheses of a token that is taken from a text are those that are read as code in it. -/
theorem parens_next (c : Char) (rest : List Char) :
    Region.code.parens (next c rest).1.source = (next c rest).1.parens := by
  unfold next
  split
  · rename_i hq
    have hn : Region.code.next c = .quoted c := by rcases hq with rfl | rfl <;> rfl
    have hb : c ≠ '\\' := by rcases hq with rfl | rfl <;> decide
    have hp : isParen c = false := by rcases hq with rfl | rfl <;> rfl
    rw [source, Region.parens_cons_of_not (by simp [hp]), hn]
    exact Region.parens_quotedRegion c hb rest
  split
  · rfl
  split
  · exact parens_plain c []
  rename_i d more
  split
  · rename_i hline
    obtain ⟨rfl, rfl⟩ := hline
    have hstays : ∀ e ∈ more.takeWhile (· ≠ '\n'), Region.line.next e = .line := by
      intro e he
      have hne : e ≠ '\n' := by simpa using List.mem_takeWhile_imp he
      simp [Region.next, hne]
    change Region.line.parens _ = []
    exact Region.parens_of_stays rfl hstays
  split
  · rename_i hblock
    obtain ⟨rfl, rfl⟩ := hblock
    exact (Region.parens_blockComment more).1
  split
  · rename_i hcast
    obtain ⟨rfl, rfl⟩ := hcast
    rfl
  split
  · rename_i hname
    obtain ⟨rfl, hstart⟩ := hname
    have hall : ∀ e ∈ d :: more.takeWhile isNameChar, isNameChar e = true := by
      intro e he
      rcases List.mem_cons.1 he with rfl | he
      · exact isNameChar_of_isNameStart hstart
      · exact List.mem_takeWhile_imp he
    -- The colon is no parenthesis and opens nothing.
    change Region.code.parens (d :: more.takeWhile isNameChar) = []
    exact parens_word (fun e he => (isCalm_of_isNameChar (hall e he)).1)
      fun e he => isParen_of_isNameChar (hall e he)
  split
  · rename_i hb
    subst hb
    rfl
  split
  · rename_i hin
    split
    · rename_i list after hlist
      exact parens_inList hin hlist
    · exact parens_plain c (d :: more)
  · exact parens_plain c (d :: more)

/-- Parentheses that no token is are closed right after they are opened. -/
theorem openAfter_singleton (depth : Nat) (t : Token) :
    openAfter depth [t] = openBehind depth t.parens := by
  by_cases hopen : t = .text ['(']
  · subst hopen
    rfl
  by_cases hclose : t = .text [')']
  · subst hclose
    rfl
  rw [openAfter, if_neg hopen, if_neg hclose, openAfter]
  unfold parens
  split
  · rename_i c
    have hc : isParen c = false := by
      rcases paren_cases c with rfl | rfl | hc
      · exact absurd rfl hopen
      · exact absurd rfl hclose
      · exact hc
    rw [if_neg (by simp [hc])]
    rfl
  · rfl
  · rfl

end Token

/-! ### Open parentheses of a text -/

/-- The parentheses of a text that are read as code are those of its tokens. -/
theorem parens_tokens (cs : List Char) :
    Region.code.parens cs = (tokens cs).flatMap Token.parens := by
  fun_induction tokens cs with
  | case1 => rfl
  | case2 c rest ih =>
    rw [List.flatMap_cons, ← ih, ← Token.parens_next, ← (Token.lawful_next c rest).ready.parens_eq,
      ← Region.parens_append, Token.source_next]

theorem openAfter_eq (depth : Nat) (ts : List Token) :
    openAfter depth ts = openBehind depth (ts.flatMap Token.parens) := by
  induction ts generalizing depth with
  | nil => rfl
  | cons t ts ih =>
    rw [← List.singleton_append, openAfter_append, Token.openAfter_singleton, ih,
      List.flatMap_append, List.flatMap_singleton, openBehind_append]

theorem openParens_eq_behind (sql : String) :
    openParens sql = openBehind 0 (Region.code.parens sql.toList) := by
  rw [openParens, openAfter_eq, parens_tokens]

/-- A text that stands in parentheses from its first to its last character has no words outside of
parentheses. -/
theorem wordsAtTop_of_covered {depth : Nat} {cs : List Char}
    (h : ∀ as bs, cs = as ++ bs → bs ≠ [] → openBehind depth (Region.code.parens as) ≠ 0) :
    wordsAtTop depth (tokens cs) = [] := by
  fun_induction tokens cs generalizing depth with
  | case1 => rfl
  | case2 c rest ih =>
    have hdepth : depth ≠ 0 := h [] (c :: rest) rfl (List.cons_ne_nil _ _)
    have hfirst : wordsAtTop depth [(Token.next c rest).1] = [] := by
      simp [wordsAtTop, hdepth]
    rw [← List.singleton_append, wordsAtTop_append, Token.openAfter_singleton,
      ← Token.parens_next, hfirst, ih]
    · rfl
    · intro as bs hsplit hne
      have hready := (Token.lawful_next c rest).ready
      have hsource := Token.source_next c rest
      rw [hsplit] at hready hsource
      rw [← hready.parens_front, ← openBehind_append, ← Region.parens_append]
      exact h _ bs (by rw [List.append_assoc, hsource]) hne

/-! ### Sealed texts -/

/-- Whether a text that is read in code leads back to code and closes the parentheses that it
opens. -/
structure Sealed (sql : String) : Prop where
  /-- Code goes on behind the text. -/
  after : Region.code.after sql.toList = .code
  /-- The parentheses that are read as code close each other. -/
  nested : Nested (Region.code.parens sql.toList)

instance (sql : String) : Decidable (Sealed sql) :=
  decidable_of_iff
    (Region.code.after sql.toList = .code ∧ Nested (Region.code.parens sql.toList))
    ⟨fun ⟨h₁, h₂⟩ => ⟨h₁, h₂⟩, fun ⟨h₁, h₂⟩ => ⟨h₁, h₂⟩⟩

namespace Sealed

variable {a b sql : String}

theorem empty : Sealed "" := ⟨rfl, rfl⟩

theorem append (ha : Sealed a) (hb : Sealed b) : Sealed (a ++ b) where
  after := by rw [String.toList_append, Region.after_append, ha.after, hb.after]
  nested := by
    rw [String.toList_append, Region.parens_append, ha.after]
    exact ha.nested.append hb.nested

theorem intercalate {separator : String} (hseparator : Sealed separator) {parts : List String}
    (hparts : ∀ part ∈ parts, Sealed part) : Sealed (separator.intercalate parts) := by
  induction parts with
  | nil => exact empty
  | cons part parts ih =>
    have hfirst := hparts part List.mem_cons_self
    have hrest := ih fun p hp => hparts p (List.mem_cons_of_mem _ hp)
    cases parts with
    | nil => simpa using hfirst
    | cons next parts =>
      rw [String.intercalate_cons_cons]
      exact (hfirst.append hseparator).append hrest

theorem openParens_eq (h : Sealed sql) : openParens sql = 0 := by
  rw [openParens_eq_behind, h.nested.openBehind_eq]

/-- In parentheses it is enough that the text leads to code. -/
theorem of_isCode (hcode : (Region.code.after sql.toList).isCode = true)
    (hnested : Nested (Region.code.parens sql.toList)) : Sealed ("(" ++ sql ++ ")") where
  after := by
    rw [String.toList_append, String.toList_append, Region.after_append, Region.after_append]
    exact Region.next_calm hcode (by decide)
  nested := by
    have hclose : (Region.code.after sql.toList).parens [')'] = [')'] := by
      rw [Region.parens_cons_of_code (by rw [hcode]; rfl)]
      rfl
    have hparens : Region.code.parens ("(" ++ sql ++ ")").toList =
        '(' :: (Region.code.parens sql.toList ++ [')']) := by
      rw [String.toList_append, String.toList_append, Region.parens_append, Region.parens_append,
        Region.after_append]
      change '(' :: Region.code.parens sql.toList ++ (Region.code.after sql.toList).parens [')'] = _
      rw [hclose]
      rfl
    rw [hparens]
    exact hnested.enclosed

theorem enclosed (h : Sealed sql) : Sealed ("(" ++ sql ++ ")") :=
  of_isCode (by rw [h.after]; rfl) h.nested

/-- A sealed text in parentheses has no words outside of parentheses. -/
theorem topWords_enclosed (h : Sealed sql) : topWords ("(" ++ sql ++ ")") = [] := by
  have htokens : tokens ("(" ++ sql ++ ")").toList =
      .text ['('] :: tokens (sql.toList ++ [')']) := by
    rw [String.toList_append, String.toList_append, List.append_assoc]
    change tokens ('(' :: (sql.toList ++ [')'])) = _
    rw [tokens]
    cases sql.toList <;> rfl
  rw [topWords, htokens]
  refine wordsAtTop_of_covered fun as bs hsplit hne => ?_
  -- What is left is at least the last parenthesis, so the front is a front of the text.
  obtain ⟨tail, hfront⟩ : ∃ tail, sql.toList = as ++ tail := by
    rcases List.append_eq_append_iff.1 hsplit with ⟨tail, rfl, htail⟩ | ⟨tail, hfront, -⟩
    · cases tail with
      | nil => exact ⟨[], by simp⟩
      | cons c tail =>
        rw [List.cons_append, List.cons.injEq] at htail
        obtain ⟨-, htail⟩ := htail
        exact absurd (List.append_eq_nil_iff.1 htail.symm).2 hne
    · exact ⟨tail, hfront⟩
  have hnested := h.nested
  rw [hfront, Region.parens_append] at hnested
  exact hnested.openBehind_pos 0

end Sealed

/-! ### Texts from outside -/

/-- Whether a text has no quotes, no comments and no backslashes. -/
structure Overt (cs : List Char) : Prop where
  /-- No single quote. -/
  single : '\x27' ∉ cs
  /-- No double quote. -/
  double : '"' ∉ cs
  /-- No backslash. -/
  backslash : '\\' ∉ cs
  /-- No comment to the end of the line. -/
  line : ¬ ['-', '-'] <:+: cs
  /-- No comment that is closed. -/
  block : ¬ ['/', '*'] <:+: cs

/-- Whether a text hides nothing and its parentheses close each other. -/
structure Neat (sql : String) : Prop where
  /-- Everything is code. -/
  overt : Overt sql.toList
  /-- No parenthesis is closed that is not open, and all are closed. -/
  nested : Nested sql.toList

instance (cs : List Char) : Decidable (Overt cs) :=
  decidable_of_iff
    ('\x27' ∉ cs ∧ '"' ∉ cs ∧ '\\' ∉ cs ∧ ¬ ['-', '-'] <:+: cs ∧ ¬ ['/', '*'] <:+: cs)
    ⟨fun ⟨h₁, h₂, h₃, h₄, h₅⟩ => ⟨h₁, h₂, h₃, h₄, h₅⟩,
      fun ⟨h₁, h₂, h₃, h₄, h₅⟩ => ⟨h₁, h₂, h₃, h₄, h₅⟩⟩

instance (sql : String) : Decidable (Neat sql) :=
  decidable_of_iff (Overt sql.toList ∧ Nested sql.toList)
    ⟨fun ⟨h₁, h₂⟩ => ⟨h₁, h₂⟩, fun ⟨h₁, h₂⟩ => ⟨h₁, h₂⟩⟩

namespace Overt

variable {as cs : List Char}

/-- A part of the text hides nothing either. -/
theorem of_part (h : Overt cs) (hpart : as <:+: cs) : Overt as where
  single hc := h.single (hpart.subset hc)
  double hc := h.double (hpart.subset hc)
  backslash hc := h.backslash (hpart.subset hc)
  line hc := h.line (hc.trans hpart)
  block hc := h.block (hc.trans hpart)

/-- Where a text hides nothing, the reader is always ready for what is left of it. -/
theorem ready {c : Char} (h : Overt (c :: cs)) : (Region.ofCode c).Ready cs := by
  have hmem : ∀ d, d ∉ c :: cs → c ≠ d := fun d hd hc => hd (hc ▸ List.mem_cons_self)
  have hpair : ∀ d e, ¬ [d, e] <:+: c :: cs → c = d → cs.head? ≠ some e := by
    rintro d e hno rfl hhead
    obtain ⟨tail, rfl⟩ := List.head?_eq_some_iff.1 hhead
    exact hno ⟨[], tail, rfl⟩
  refine Region.ready_ofCode ?_ ?_ (hpair '-' '-' h.line) (hpair '/' '*' h.block)
  · rintro (hc | hc)
    · exact hmem _ h.single hc
    · exact hmem _ h.double hc
  · exact fun hc => absurd hc (hmem _ h.backslash)

/-- All parentheses count in a text that hides nothing, and it leads to code. -/
theorem reading (h : Overt cs) :
    Region.code.parens cs = cs.filter isParen ∧ (Region.code.after cs).isCode = true := by
  induction cs with
  | nil => exact ⟨rfl, rfl⟩
  | cons c cs ih =>
    obtain ⟨hparens, hcode⟩ := ih (h.of_part (List.suffix_cons c cs).isInfix)
    have hready := h.ready
    have hnext : Region.code.next c = Region.ofCode c := rfl
    constructor
    · rw [Region.parens, hnext, hready.parens_eq, hparens, List.filter_cons]
      rfl
    · rw [Region.after_cons, hnext]
      cases cs with
      | nil =>
        -- Only a quote or a backslash leads out of code.
        rw [Region.after_nil]
        have hmem : ∀ d, d ∉ [c] → c ≠ d := fun d hd hc => hd (hc ▸ List.mem_cons_self)
        have h₁ := hmem _ h.single
        have h₂ := hmem _ h.double
        have h₃ := hmem _ h.backslash
        rw [Region.ofCode, if_neg (by simp [h₁, h₂]), if_neg h₃]
        split
        · rfl
        · split <;> rfl
      | cons d cs =>
        rw [hready.after_eq]
        exact hcode

end Overt

theorem isParen_of_isBlank {c : Char} (h : isBlank c = true) : isParen c = false := by
  rcases paren_cases c with rfl | rfl | hc
  · cases h
  · cases h
  · exact hc

/-- The blanks at the ends of a text are no parentheses. -/
theorem Nested.trimChars {cs : List Char} (h : Nested cs) : Nested (trimChars cs) := by
  obtain ⟨front, back, hblank, hsplit⟩ := exists_trimChars cs
  have hnone : ∀ l : List Char, (∀ c ∈ l, c ∈ front ++ back) → l.filter isParen = [] := by
    intro l hl
    rw [List.filter_eq_nil_iff]
    intro c hc
    simp [isParen_of_isBlank (hblank c (hl c hc))]
  have hfront := hnone front fun c hc => List.mem_append_left _ hc
  have hback := hnone back fun c hc => List.mem_append_right _ hc
  rw [Nested, ← nesting?_filter, hsplit, List.filter_append, List.filter_append, hfront, hback,
    List.nil_append, List.append_nil, nesting?_filter] at h
  exact h

/-- What is left of a text that is not blank. -/
theorem eq_trim_of_nonBlank {sql text : String} (h : nonBlank sql = some text) :
    text = trim sql := by
  simp only [nonBlank] at h
  split at h
  · cases h
  · exact (Option.some.inj h).symm

namespace Neat

variable {sql : String}

/-- The blanks at the ends make no difference. -/
theorem trim (h : Neat sql) : Neat (Text.trim sql) := by
  obtain ⟨front, back, -, hsplit⟩ := exists_trimChars sql.toList
  constructor
  · rw [toList_trim]
    exact h.overt.of_part ⟨front, back, hsplit.symm⟩
  · rw [toList_trim]
    exact h.nested.trimChars

/-- A text that hides nothing is sealed once it is in parentheses. -/
theorem sealed (h : Neat sql) : Sealed ("(" ++ sql ++ ")") := by
  obtain ⟨hparens, hcode⟩ := h.overt.reading
  refine .of_isCode hcode ?_
  rw [hparens, Nested, nesting?_filter]
  exact h.nested

end Neat

end BoundQuery
