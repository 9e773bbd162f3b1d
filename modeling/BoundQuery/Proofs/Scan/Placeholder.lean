import BoundQuery.Proofs.Scan.Token
import Mathlib.Data.List.Basic

/-!
# The placeholders of a text

Tokens and regions find the same placeholders in a text.

* `Token.marks` : for each character of a token whether it is a placeholder;
* `Region.Ready` : the regions that a reader can be in where a token of a text starts;
* `Token.Lawful` : a reader in code who reads a token sees the marks of the token, and is ready
  for the text after it; `Token.lawful_next` shows it for every token that is taken from a text;
* `Region.Reads` : a reader sees the marks of all tokens of a list, and every token that binding
  may replace begins and ends in code; `Region.reads_tokens` shows it for the tokens of a text;
* `marks_tokens` : **the placeholders of a text are the `?` that are read in code**.
-/

namespace BoundQuery

open Text

/-- Whether binding may put something else in the place of a token. -/
def Token.isSlot : Token → Bool
  | .named _ => true
  | .inList _ => true
  | .bare => true
  | _ => false

/-- For each character of a token, whether it is a placeholder. -/
def Token.marks (t : Token) : List Bool :=
  if t.isPlaceholder then t.source.map (· == '?') else List.replicate t.source.length false

/-- Whether a reader in the region, in front of a text, stands where a token starts. -/
def Region.Ready : Region → List Char → Prop
  | .code, _ => True
  | .dash, cs => cs.head? ≠ some '-'
  | .slash, cs => cs.head? ≠ some '*'
  | .line, cs => ∀ c, cs.head? = some c → c = '\n'
  | _, cs => cs = []

/-- What a reader in code sees of a token that stands in front of a text. -/
structure Token.Lawful (t : Token) (rest : List Char) : Prop where
  /-- The marks of the token. -/
  marks : Region.code.marks t.source = t.marks
  /-- After the token, the reader is ready for the next one. -/
  ready : (Region.code.after t.source).Ready rest
  /-- A token that binding may replace ends in code. -/
  slot : t.isSlot = true → Region.code.after t.source = .code
  /-- A placeholder has one `?`. -/
  single : t.isPlaceholder = true → t.source.count '?' = 1

namespace Region

/-! ### Reading regions -/

theorem marks_of_stays {r : Region} {cs : List Char} (hr : r.isCode = false)
    (hs : ∀ c ∈ cs, r.next c = r) :
    r.marks cs = List.replicate cs.length false ∧ r.after cs = r := by
  induction cs with
  | nil => exact ⟨rfl, rfl⟩
  | cons c cs ih =>
    obtain ⟨hm, ha⟩ := ih fun d hd => hs d (List.mem_cons_of_mem _ hd)
    rw [marks_cons, after_cons, hs c List.mem_cons_self, hr, hm, ha]
    exact ⟨rfl, rfl⟩

/-- A quoted region hides its text, and code follows it unless the text ends. -/
theorem quoted_region (q : Char) (hq : q ≠ '\\') (cs : List Char) :
    (Region.quoted q).marks (Token.quotedRegion q cs).1 =
        List.replicate (Token.quotedRegion q cs).1.length false ∧
      ((Token.quotedRegion q cs).2 = [] ∨
        (Region.quoted q).after (Token.quotedRegion q cs).1 = .code) := by
  fun_induction Token.quotedRegion q cs with
  | case1 => exact ⟨rfl, .inl rfl⟩
  | case2 => exact ⟨rfl, .inl rfl⟩
  | case3 => exact ⟨rfl, .inr (by simp [next])⟩
  | case4 d rest region after h hc ih =>
    simp only [h] at ih
    obtain ⟨hm, he⟩ := ih
    -- The backslash takes `d` with it, so two characters are read at once.
    have hn : (Region.quoted q).next '\\' = .quotedEscape q := by simp [next, hq.symm]
    simp only [marks_cons, after_cons, hn, List.length_cons, List.replicate_succ]
    exact ⟨by rw [← hm]; rfl, he⟩
  | case5 c d rest hc hb region after h ih =>
    simp only [h] at ih
    obtain ⟨hm, he⟩ := ih
    have hn : (Region.quoted q).next c = .quoted q := by simp [next, hc, hb]
    simp only [marks_cons, after_cons, hn, List.length_cons, List.replicate_succ]
    exact ⟨by rw [← hm]; rfl, he⟩

/-- Right after a `*` only a `/` makes a difference. -/
theorem next_blockStar {c : Char} (h : c ≠ '/') :
    Region.blockStar.next c = Region.block.next c := by
  simp [next, h]

/-- A block comment hides its text, and code follows it unless the text ends.  The second part is
for a reader who has met a `*` right before. -/
theorem block_region (cs : List Char) :
    (Region.block.marks (Token.blockComment cs).1 =
        List.replicate (Token.blockComment cs).1.length false ∧
      ((Token.blockComment cs).2 = [] ∨ Region.block.after (Token.blockComment cs).1 = .code)) ∧
    (cs.head? ≠ some '/' →
      Region.blockStar.marks (Token.blockComment cs).1 =
          Region.block.marks (Token.blockComment cs).1 ∧
        ((Token.blockComment cs).2 = [] ∨
          Region.blockStar.after (Token.blockComment cs).1 = .code)) := by
  fun_induction Token.blockComment cs with
  | case1 => exact ⟨⟨rfl, .inl rfl⟩, fun _ => ⟨rfl, .inl rfl⟩⟩
  | case2 c =>
    refine ⟨⟨rfl, .inl rfl⟩, fun h => ⟨rfl, .inl rfl⟩⟩
  | case3 c d rest hc =>
    obtain ⟨rfl, rfl⟩ := hc
    exact ⟨⟨rfl, .inr rfl⟩, fun _ => ⟨rfl, .inr rfl⟩⟩
  | case4 c d rest hc region after h ih =>
    simp only [h] at ih
    obtain ⟨⟨hm, he⟩, hs⟩ := ih
    -- After a `*` the reader is in `blockStar`, where the second part of `ih` applies.
    have key : (Region.block.next c).marks region = List.replicate region.length false ∧
        (after = [] ∨ (Region.block.next c).after region = .code) := by
      by_cases hstar : c = '*'
      · have hd : (d :: rest).head? ≠ some '/' := by
          simp only [List.head?_cons, ne_eq, Option.some.injEq]
          exact fun hd => hc ⟨hstar, hd⟩
        obtain ⟨hms, hes⟩ := hs hd
        rw [hstar]
        exact ⟨hms.trans hm, hes⟩
      · have hn : Region.block.next c = .block := by simp [next, hstar]
        rw [hn]
        exact ⟨hm, he⟩
    simp only [marks_cons, after_cons, List.length_cons, List.replicate_succ, key.1]
    refine ⟨⟨rfl, key.2⟩, fun hne => ?_⟩
    have hc' : c ≠ '/' := by simpa using hne
    rw [next_blockStar hc', key.1]
    exact ⟨rfl, key.2⟩

end Region

/-! ### Single tokens -/

/-- Characters that have a property are calm if those that are not calm lack it. -/
theorem isCalm_of {p : Char → Bool}
    (hp : ['\x27', '"', '\\', '-', '/', '*', '?'].any p = false) {c : Char} (h : p c = true) :
    Region.isCalm c = true ∧ c ≠ '?' := by
  have hne : ∀ d ∈ ['\x27', '"', '\\', '-', '/', '*', '?'], c ≠ d := by
    rintro d hd rfl
    exact List.any_eq_false.1 hp c hd h
  simp only [List.mem_cons, List.not_mem_nil, or_false, forall_eq_or_imp, forall_eq] at hne
  obtain ⟨h₁, h₂, h₃, h₄, h₅, h₆, h₇⟩ := hne
  simp [Region.isCalm, h₁, h₂, h₃, h₄, h₅, h₆, h₇]

theorem isCalm_of_isWordChar {c : Char} (h : isWordChar c = true) :
    Region.isCalm c = true ∧ c ≠ '?' := isCalm_of (by decide) h

theorem isCalm_of_isNameChar {c : Char} (h : Token.isNameChar c = true) :
    Region.isCalm c = true ∧ c ≠ '?' := isCalm_of (by decide) h

theorem isCalm_of_isListBlank {c : Char} (h : Token.isListBlank c = true) :
    Region.isCalm c = true ∧ c ≠ '?' := isCalm_of (by decide) h

theorem isNameChar_of_isNameStart {c : Char} (h : Token.isNameStart c = true) :
    Token.isNameChar c = true := by
  simp only [Token.isNameStart, Token.isNameChar, Bool.or_eq_true, Char.isAlphanum] at h ⊢
  rcases h with h | h
  · exact .inl (.inl h)
  · exact .inr h

/-- No `?` among characters none of which is one. -/
theorem map_isMark_eq {cs : List Char} (h : ∀ c ∈ cs, c ≠ '?') :
    cs.map (· == '?') = List.replicate cs.length false := by
  rw [List.eq_replicate_iff]
  refine ⟨List.length_map _, fun b hb => ?_⟩
  obtain ⟨c, hc, rfl⟩ := List.mem_map.1 hb
  simpa using h c hc

theorem count_map_isMark (cs : List Char) :
    (cs.map (· == '?')).count true = cs.count '?' := by
  rw [List.count_eq_countP, List.countP_map, List.count_eq_countP]
  exact List.countP_congr fun c _ => by simp

/-- After a character that opens nothing in front of a text, the reader is ready for the text. -/
theorem Region.ready_ofCode {c : Char} {rest : List Char} (hq : ¬ (c = '\x27' ∨ c = '"'))
    (hb : c = '\\' → rest = []) (hd : c = '-' → rest.head? ≠ some '-')
    (hs : c = '/' → rest.head? ≠ some '*') : (Region.ofCode c).Ready rest := by
  unfold Region.ofCode
  split
  · contradiction
  split
  · rename_i h
    exact hb h
  split
  · rename_i h
    exact hd h
  split
  · rename_i h
    exact hs h
  · trivial

namespace Token

/-- A token of calm characters is read as code. -/
theorem lawful_calm {t : Token} {rest : List Char} (hne : t.source ≠ [])
    (hc : ∀ c ∈ t.source, Region.isCalm c = true) (hm : t.source.map (· == '?') = t.marks)
    (hs : t.isPlaceholder = true → t.source.count '?' = 1) : Lawful t rest where
  marks := (Region.marks_calm rfl hc).trans hm
  ready := by rw [Region.after_calm rfl hne hc]; trivial
  slot _ := Region.after_calm rfl hne hc
  single := hs

/-- A token of calm characters without a `?` is read as code. -/
theorem lawful_plainly {t : Token} {rest : List Char} (hne : t.source ≠ [])
    (hc : ∀ c ∈ t.source, Region.isCalm c = true ∧ c ≠ '?') (ht : t.isPlaceholder = false) :
    Lawful t rest := by
  refine lawful_calm hne (fun c h => (hc c h).1) ?_ fun h => ?_
  · rw [map_isMark_eq fun c h => (hc c h).2]
    simp [marks, ht]
  · rw [ht] at h
    cases h

/-- A quote or a comment hides all of its text. -/
theorem lawful_inert {cs rest : List Char}
    (hm : Region.code.marks cs = List.replicate cs.length false)
    (hr : (Region.code.after cs).Ready rest) : Lawful (.inert cs) rest where
  marks := hm
  ready := hr
  slot h := by cases h
  single h := by cases h

/-- Where a text ends, its reader is ready. -/
theorem ready_of_end {r : Region} {rest : List Char} (h : rest = [] ∨ r = .code) :
    r.Ready rest := by
  rcases h with rfl | rfl
  · cases r <;> simp [Region.Ready]
  · trivial

theorem lawful_quoted {q : Char} (hq : q = '\x27' ∨ q = '"') (rest : List Char) :
    Lawful (.inert (q :: (quotedRegion q rest).1)) (quotedRegion q rest).2 := by
  have hn : Region.code.next q = .quoted q := by rcases hq with rfl | rfl <;> rfl
  have hb : q ≠ '\\' := by rcases hq with rfl | rfl <;> decide
  have hm : (q == '?') = false := by rcases hq with rfl | rfl <;> rfl
  obtain ⟨hmarks, hend⟩ := Region.quoted_region q hb rest
  refine lawful_inert ?_ ?_
  · rw [Region.marks_cons, hn, hm, hmarks]
    rfl
  · rw [Region.after_cons, hn]
    exact ready_of_end hend

theorem lawful_line (rest : List Char) :
    Lawful (.inert ('-' :: '-' :: rest.takeWhile (· ≠ '\n'))) (rest.dropWhile (· ≠ '\n')) := by
  have hstays : ∀ c ∈ rest.takeWhile (· ≠ '\n'), Region.line.next c = .line := by
    intro c hc
    have h := List.mem_takeWhile_imp hc
    simp only [ne_eq, decide_not, Bool.not_eq_true', decide_eq_false_iff_not] at h
    simp [Region.next, h]
  obtain ⟨hm, ha⟩ := Region.marks_of_stays rfl hstays
  refine lawful_inert ?_ ?_
  · change _ :: _ :: Region.line.marks _ = _
    rw [hm]
    rfl
  · change (Region.line.after _).Ready _
    rw [ha]
    intro c hc
    have h := List.head?_dropWhile_not (fun c => decide (c ≠ '\n')) rest
    rw [hc] at h
    simpa using h

theorem lawful_block (rest : List Char) :
    Lawful (.inert ('/' :: '*' :: (blockComment rest).1)) (blockComment rest).2 := by
  obtain ⟨hm, he⟩ := (Region.block_region rest).1
  refine lawful_inert ?_ ?_
  · change _ :: _ :: Region.block.marks _ = _
    rw [hm]
    rfl
  · exact ready_of_end he

theorem lawful_named {d : Char} (hd : isNameStart d = true) (rest : List Char)
    (after : List Char) : Lawful (.named (d :: rest.takeWhile isNameChar)) after := by
  refine lawful_plainly (by simp [source]) (fun c hc => ?_) rfl
  simp only [source, List.mem_cons] at hc
  rcases hc with rfl | rfl | hc
  · exact ⟨rfl, by decide⟩
  · exact isCalm_of_isNameChar (isNameChar_of_isNameStart hd)
  · exact isCalm_of_isNameChar (List.mem_takeWhile_imp hc)

theorem lawful_escape (d : Char) (rest : List Char) : Lawful (.text ['\\', d]) rest := by
  refine ⟨?_, trivial, fun _ => rfl, fun h => by cases h⟩
  simp [source, Region.marks_cons, Region.next, Region.ofCode, Region.isCode, marks,
    isPlaceholder]

theorem isCalm_of_isIn {c d : Char} (h : isIn c d = true) :
    (Region.isCalm c = true ∧ c ≠ '?') ∧ Region.isCalm d = true ∧ d ≠ '?' := by
  simp only [isIn, Bool.and_eq_true, Bool.or_eq_true, decide_eq_true_eq] at h
  obtain ⟨rfl | rfl, rfl | rfl⟩ := h <;> decide

theorem lawful_inList {c d : Char} {more list after : List Char} (hi : isIn c d = true)
    (hl : singleList? more = some (list, after)) : Lawful (.inList (c :: d :: list)) after := by
  obtain ⟨-, as, bs, ds, hb, rfl⟩ := singleList?_eq_some hl
  obtain ⟨hc, hd⟩ := isCalm_of_isIn hi
  have hblank : ∀ e ∈ as ++ bs ++ ds, Region.isCalm e = true ∧ e ≠ '?' :=
    fun e he => isCalm_of_isListBlank (hb e he)
  have hcount : ∀ l : List Char, (∀ e ∈ l, e ∈ as ++ bs ++ ds) → l.count '?' = 0 :=
    fun l hl => List.count_eq_zero_of_not_mem fun h => (hblank _ (hl _ h)).2 rfl
  refine lawful_calm (by simp [source]) (fun e he => ?_) rfl fun _ => ?_
  · simp only [source, List.mem_cons, List.mem_append, List.not_mem_nil, or_false] at he
    simp only [List.mem_append] at hblank
    rcases he with rfl | rfl | (((he | rfl) | he | rfl) | he | rfl)
    · exact hc.1
    · exact hd.1
    · exact (hblank e (.inl (.inl he))).1
    · rfl
    · exact (hblank e (.inl (.inr he))).1
    · rfl
    · exact (hblank e (.inr he)).1
    · rfl
  · -- The blanks on the three sides of the mark have no `?`.
    have ha := hcount as fun e he => by simp [he]
    have hb := hcount bs fun e he => by simp [he]
    have hd' := hcount ds fun e he => by simp [he]
    simp [source, List.count_append, ha, hb, hd', hc.2, hd.2]

/-- A word, or a character that opens nothing in front of the text after it. -/
theorem lawful_plain {c : Char} {rest : List Char} (hq : ¬ (c = '\x27' ∨ c = '"')) (hm : c ≠ '?')
    (hb : c = '\\' → rest = []) (hd : c = '-' → rest.head? ≠ some '-')
    (hs : c = '/' → rest.head? ≠ some '*') : Lawful (plain c rest).1 (plain c rest).2 := by
  unfold plain
  split
  · rename_i hw
    refine lawful_plainly (by simp [source]) (fun e he => ?_) rfl
    simp only [source, List.mem_cons] at he
    rcases he with rfl | he
    · exact isCalm_of_isWordChar hw
    · exact isCalm_of_isWordChar (List.mem_takeWhile_imp he)
  · refine ⟨?_, ?_, (fun h => by cases h), fun h => by cases h⟩
    · simp [source, Region.marks_cons, hm, marks, isPlaceholder]
    · exact Region.ready_ofCode hq hb hd hs

/-- Every token that is taken from a text is read as it should be. -/
theorem lawful_next (c : Char) (rest : List Char) : Lawful (next c rest).1 (next c rest).2 := by
  unfold next
  split
  · rename_i hq
    exact lawful_quoted hq rest
  rename_i hq
  split
  · exact ⟨rfl, trivial, fun _ => rfl, fun _ => rfl⟩
  rename_i hm
  split
  · exact lawful_plain hq hm (fun _ => rfl) (fun _ => by simp) fun _ => by simp
  rename_i d more
  split
  · rename_i h
    obtain ⟨rfl, rfl⟩ := h
    exact lawful_line more
  rename_i hdash
  split
  · rename_i h
    obtain ⟨rfl, rfl⟩ := h
    exact lawful_block more
  rename_i hslash
  split
  · rename_i h
    obtain ⟨rfl, rfl⟩ := h
    exact lawful_plainly (by simp [source]) (by simp [source]; decide) rfl
  split
  · rename_i h
    exact lawful_named h.2 more _
  split
  · rename_i h
    subst h
    exact lawful_escape d more
  rename_i hesc
  -- What is left opens no comment, so the plain token applies to both ways to end up there.
  have hplain : Lawful (plain c (d :: more)).1 (plain c (d :: more)).2 :=
    lawful_plain hq hm (fun h => absurd h hesc)
      (fun h hd => hdash ⟨h, Option.some.inj hd⟩) fun h hd => hslash ⟨h, Option.some.inj hd⟩
  split
  · rename_i hi
    split
    · rename_i list after hl
      exact lawful_inList hi hl
    · exact hplain
  · exact hplain

end Token

/-! ### All tokens of a text -/

namespace Region

theorem Ready.next_eq {r : Region} {c : Char} {cs : List Char} (h : r.Ready (c :: cs)) :
    r.next c = Region.code.next c ∧ (r.isCode = true ∨ c = '\n') := by
  cases r <;> simp_all [Ready, next, ofCode, isCode]

/-- A reader who is ready for a text reads it as code. -/
theorem Ready.marks_eq {r : Region} {cs : List Char} (h : r.Ready cs) :
    r.marks cs = Region.code.marks cs := by
  cases cs with
  | nil => rfl
  | cons c cs =>
    obtain ⟨hn, hc⟩ := h.next_eq
    rw [marks_cons, marks_cons, hn]
    rcases hc with hc | rfl
    · rw [hc]
      rfl
    · simp

theorem Ready.after_eq {r : Region} {c : Char} {cs : List Char} (h : r.Ready (c :: cs)) :
    r.after (c :: cs) = Region.code.after (c :: cs) := by
  rw [after_cons, after_cons, h.next_eq.1]

/-- Whether a reader in the region sees the marks of all tokens of a list, where every token that
binding may replace begins and ends in code. -/
def Reads : Region → List Token → Prop
  | _, [] => True
  | r, t :: ts =>
    r.marks t.source = t.marks ∧
      (t.isSlot = true → r.isCode = true ∧ r.after t.source = .code) ∧
      (t.isPlaceholder = true → t.source.count '?' = 1) ∧ (r.after t.source).Reads ts

/-- A token that binding may replace does not end a comment. -/
theorem isCode_of_ready {r : Region} {c : Char} {cs : List Char} (h : r.Ready (c :: cs))
    (hs : (Token.next c cs).1.isSlot = true) : r.isCode = true := by
  rcases h.next_eq.2 with h | rfl
  · exact h
  · have hn : (Token.next '\n' cs).1 = .text ['\n'] := by cases cs <;> rfl
    rw [hn] at hs
    cases hs

/-- **The tokens of a text are read as they should be.** -/
theorem reads_tokens {r : Region} {cs : List Char} (h : r.Ready cs) : r.Reads (tokens cs) := by
  fun_induction tokens cs generalizing r with
  | case1 => trivial
  | case2 c rest ih =>
    have hl := Token.lawful_next c rest
    obtain ⟨tail, ht⟩ := Token.source_next_eq c rest
    -- The reader is ready for `c`, so it reads the token as a reader in code does.
    have hr : r.Ready (c :: tail) := by
      cases r <;> simp_all [Ready]
    have hm : r.marks (Token.next c rest).1.source = (Token.next c rest).1.marks := by
      rw [← hl.marks, ht, hr.marks_eq]
    have ha : r.after (Token.next c rest).1.source =
        Region.code.after (Token.next c rest).1.source := by
      rw [ht, hr.after_eq]
    refine ⟨hm, fun hs => ⟨?_, ?_⟩, hl.single, ?_⟩
    · exact isCode_of_ready h hs
    · rw [ha]
      exact hl.slot hs
    · rw [ha]
      exact ih hl.ready

/-- What a reader sees of a single token of a list. -/
theorem Reads.getElem? {r : Region} {ts : List Token} (h : r.Reads ts) {i : Nat} {t : Token}
    (ht : ts[i]? = some t) :
    (r.after ((ts.take i).flatMap Token.source)).marks t.source = t.marks ∧
      (t.isSlot = true → (r.after ((ts.take i).flatMap Token.source)).isCode = true ∧
        (r.after ((ts.take i).flatMap Token.source)).after t.source = .code) ∧
      (t.isPlaceholder = true → t.source.count '?' = 1) := by
  induction ts generalizing r i with
  | nil => cases ht
  | cons u ts ih =>
    obtain ⟨hm, hs, hq, hr⟩ := h
    cases i with
    | zero =>
      cases ht
      exact ⟨hm, hs, hq⟩
    | succ i =>
      rw [List.take_succ_cons, List.flatMap_cons, after_append]
      exact ih hr ht

/-- A reader sees the marks of the tokens one after the other. -/
theorem Reads.marks_eq {r : Region} {ts : List Token} (h : r.Reads ts) :
    r.marks (ts.flatMap Token.source) = ts.flatMap Token.marks := by
  induction ts generalizing r with
  | nil => rfl
  | cons t ts ih =>
    obtain ⟨hm, -, -, hr⟩ := h
    rw [List.flatMap_cons, List.flatMap_cons, marks_append, hm, ih hr]

end Region

/-- **The placeholders of a text are the `?` that are read in code.** -/
theorem marks_tokens (cs : List Char) : Region.code.marks cs = (tokens cs).flatMap Token.marks := by
  have h : Region.code.Reads (tokens cs) := Region.reads_tokens trivial
  have hm := h.marks_eq
  rwa [flatMap_source_tokens] at hm

/-! ### Where the placeholders stand -/

/-- Where the `?` of the placeholders among tokens stand, from a start on. -/
def markOffsets (start : Nat) : List Token → List Nat
  | [] => []
  | t :: ts =>
    (if t.isPlaceholder then [start + t.source.idxOf '?'] else []) ++
      markOffsets (start + t.source.length) ts

/-- Where the `?` of the placeholders of a text stand, in order. -/
def placeholderOffsets (sql : String) : List Nat := markOffsets 0 (tokens sql.toList)

theorem findIdxs_eq_of_count_eq_one {a : Char} {l : List Char} (h : l.count a = 1) (s : Nat) :
    l.findIdxs (· == a) s = [s + l.idxOf a] := by
  induction l generalizing s with
  | nil => simp at h
  | cons b l ih =>
    rw [List.findIdxs_cons]
    by_cases hb : b = a
    · subst hb
      have h0 : l.count b = 0 := by simpa using h
      have hnil : l.findIdxs (· == b) (s + 1) = [] := by
        rw [List.findIdxs_eq_nil_iff]
        intro x hx
        have : b ∉ l := List.count_eq_zero.1 h0
        simpa using fun hxb : x = b => this (hxb ▸ hx)
      simp [hnil]
    · have h1 : l.count a = 1 := by simpa [hb] using h
      have hba : (b == a) = false := by simpa using hb
      rw [ih h1, hba, List.idxOf_cons, hba]
      simp only [Bool.false_eq_true, ↓reduceIte, cond_false, List.cons.injEq, and_true]
      omega

namespace Region.Reads

theorem marks_of_not_isPlaceholder {t : Token} (h : t.isPlaceholder = false) :
    t.marks = List.replicate t.source.length false := by simp [Token.marks, h]

theorem marks_of_isPlaceholder {t : Token} (h : t.isPlaceholder = true) :
    t.marks = t.source.map (· == '?') := by simp [Token.marks, h]

theorem markOffsets_eq {r : Region} {ts : List Token} (h : r.Reads ts) (s : Nat) :
    markOffsets s ts = (ts.flatMap Token.marks).findIdxs id s := by
  induction ts generalizing r s with
  | nil => rfl
  | cons t ts ih =>
    obtain ⟨-, -, hs, hr⟩ := h
    rw [markOffsets, List.flatMap_cons, List.findIdxs_append, ← ih hr]
    cases ht : t.isPlaceholder with
    | true =>
      rw [marks_of_isPlaceholder ht, List.findIdxs_map, List.length_map]
      exact congrArg (· ++ _) (findIdxs_eq_of_count_eq_one (hs ht) s).symm
    | false =>
      have hnil : (List.replicate t.source.length false).findIdxs id s = [] :=
        List.findIdxs_eq_nil_iff.2 fun x hx => (List.eq_of_mem_replicate hx)
      rw [marks_of_not_isPlaceholder ht, hnil, List.length_replicate]
      rfl

end Region.Reads

/-- The placeholders stand where the marks are. -/
theorem placeholderOffsets_eq (sql : String) :
    placeholderOffsets sql = (Region.code.marks sql.toList).findIdxs id := by
  have h : Region.code.Reads (tokens sql.toList) := Region.reads_tokens trivial
  rw [marks_tokens]
  exact h.markOffsets_eq 0

theorem Region.length_findIdxs_marks (r : Region) (cs : List Char) (s : Nat) :
    ((r.marks cs).findIdxs id s).length = r.count cs := by
  rw [List.length_findIdxs, Region.count, List.count_eq_countP]
  exact List.countP_congr fun b _ => by cases b <;> simp

theorem length_markOffsets (s : Nat) (ts : List Token) :
    (markOffsets s ts).length = ts.countP Token.isPlaceholder := by
  induction ts generalizing s with
  | nil => rfl
  | cons t ts ih =>
    rw [markOffsets, List.length_append, ih, List.countP_cons]
    split <;> simp [Nat.add_comm]

theorem length_placeholderOffsets (sql : String) :
    (placeholderOffsets sql).length = placeholderCount sql := length_markOffsets 0 _

/-- **The number of placeholders of a text is the number of `?` that are read in code.** -/
theorem placeholderCount_eq (sql : String) :
    placeholderCount sql = Region.code.count sql.toList := by
  rw [placeholderCount, ← length_markOffsets 0, ← placeholderOffsets, placeholderOffsets_eq,
    Region.length_findIdxs_marks]

/-! ### The front of a text -/

/-- The placeholders of a text are those of its front and, further on, those of its rest. -/
theorem placeholderOffsets_append (as bs : List Char) :
    ∃ front back, placeholderOffsets (String.ofList (as ++ bs)) = front ++ back ∧
      front.length = Region.code.count as ∧ (∀ o ∈ front, o < as.length) ∧
        ∀ o ∈ back, as.length ≤ o := by
  refine ⟨(Region.code.marks as).findIdxs id,
    ((Region.code.after as).marks bs).findIdxs id as.length, ?_,
    Region.code.length_findIdxs_marks as 0, fun o ho => ?_, List.ge_of_mem_findIdxs⟩
  · rw [placeholderOffsets_eq, String.toList_ofList, Region.marks_append, List.findIdxs_append,
      Region.length_marks, Nat.zero_add]
  · simpa using List.lt_add_of_mem_findIdxs o ho

theorem countP_placeholderOffsets_lt (as bs : List Char) :
    (placeholderOffsets (String.ofList (as ++ bs))).countP (fun o => decide (o < as.length)) =
      Region.code.count as := by
  obtain ⟨front, back, heq, hlen, hfront, hback⟩ := placeholderOffsets_append as bs
  have hall : front.countP (fun o => decide (o < as.length)) = front.length :=
    List.countP_eq_length.2 fun o ho => by simpa using hfront o ho
  have hnone : back.countP (fun o => decide (o < as.length)) = 0 :=
    List.countP_eq_zero.2 fun o ho => by simpa using hback o ho
  rw [heq, List.countP_append, hall, hnone, hlen, Nat.add_zero]

theorem lt_length_iff_of_getElem? {as bs : List Char} {j o : Nat}
    (h : (placeholderOffsets (String.ofList (as ++ bs)))[j]? = some o) :
    o < as.length ↔ j < Region.code.count as := by
  obtain ⟨front, back, heq, hlen, hfront, hback⟩ := placeholderOffsets_append as bs
  rw [heq, List.getElem?_append] at h
  rw [← hlen]
  split at h
  · rename_i hj
    exact iff_of_true (hfront o (List.mem_of_getElem? h)) hj
  · rename_i hj
    exact iff_of_false (Nat.not_lt.2 (hback o (List.mem_of_getElem? h))) hj

/-- A `?` stands where a placeholder stands. -/
theorem getElem?_of_mem_placeholderOffsets {sql : String} {o : Nat}
    (h : o ∈ placeholderOffsets sql) : sql.toList[o]? = some '?' := by
  rw [placeholderOffsets_eq, List.mem_findIdxs_iff_exists_getElem_pos] at h
  obtain ⟨ho, hmark⟩ := h
  exact Region.getElem?_of_marks (List.getElem?_eq_some_iff.2 ⟨ho, hmark⟩)

end BoundQuery
