import BoundQuery.Proofs.Scan.Placeholder

/-!
# The plain scanner

Tokens are taken by readers that know names, casts, words and `IN` lists.  To count placeholders,
none of that is needed: a `Scanner` goes from left to right through a text and knows quotes,
comments and backslashes only.

* `Scanner` : the four states; `Scanner.marks` : for each character of a text whether it is a `?`
  that is met in the normal state, and `Scanner.count` : how many are;
* `Scanner.marks_region` : a scanner, who looks two characters ahead, and a `Region`, which
  remembers one character, find the same marks;
* `placeholderCount_eq_scanned` : **tokens and scanner find the same placeholders**, in a text and
  in each of its tokens.
-/

namespace BoundQuery

/-- Where a scanner of SQL text stands. -/
inductive Scanner where
  /-- In normal text. -/
  | normal
  /-- In a region between two of these quotes. -/
  | quoted (quote : Char)
  /-- In a comment that ends with the line. -/
  | line
  /-- In a comment that is closed. -/
  | block
deriving DecidableEq

namespace Scanner

/-- For each character of a text, whether it is a `?` that is met in the normal state.  A backslash
takes the next character with it, in normal text and between quotes.  A region that is never closed
runs to the end. -/
def marks : Scanner → List Char → List Bool
  | _, [] => []
  | .normal, '\\' :: _ :: cs => false :: false :: marks .normal cs
  | .normal, '-' :: '-' :: cs => false :: false :: marks .line cs
  | .normal, '/' :: '*' :: cs => false :: false :: marks .block cs
  | .normal, c :: cs =>
    if c = '\x27' ∨ c = '"' then false :: marks (.quoted c) cs
    else (c == '?') :: marks .normal cs
  | .quoted q, '\\' :: _ :: cs => false :: false :: marks (.quoted q) cs
  | .quoted q, c :: cs => false :: marks (if c = q then .normal else .quoted q) cs
  | .line, c :: cs => false :: marks (if c = '\n' then .normal else .line) cs
  | .block, '*' :: '/' :: cs => false :: false :: marks .normal cs
  | .block, _ :: cs => false :: marks .block cs

/-- The number of `?` of a text that are met in the normal state. -/
def count (m : Scanner) (cs : List Char) : Nat := (m.marks cs).count true

/-! ### One character at a time -/

/-- The region of a reader who remembers one character. -/
def region : Scanner → Region
  | .normal => .code
  | .quoted q => .quoted q
  | .line => .line
  | .block => .block

theorem marks_blockStar {cs : List Char} (h : cs.head? ≠ some '/') :
    Region.blockStar.marks cs = Region.block.marks cs := by
  cases cs with
  | nil => rfl
  | cons c cs =>
    have hc : c ≠ '/' := by simpa using h
    rw [Region.marks_cons, Region.marks_cons, Region.next_blockStar hc]
    rfl

/-- A scanner and a reader who remembers one character find the same marks. -/
theorem marks_region (m : Scanner) (cs : List Char) (hm : m ≠ .quoted '\\') :
    m.region.marks cs = m.marks cs := by
  -- Where the scanner takes two characters, the reader remembers the first one in between.
  fun_induction marks m cs with
  | case1 => rfl
  | case2 d cs ih => exact congrArg (false :: false :: ·) (ih hm)
  | case3 cs ih | case4 cs ih | case10 cs ih => exact congrArg (false :: false :: ·) (ih nofun)
  | case5 c cs _ _ _ hq ih =>
    have hn : Region.code.next c = .quoted c := by rcases hq with rfl | rfl <;> rfl
    have hmark : (c == '?') = false := by rcases hq with rfl | rfl <;> rfl
    have hb : quoted c ≠ .quoted '\\' := by rcases hq with rfl | rfl <;> decide
    rw [region, Region.marks_cons, hn, hmark]
    exact congrArg (false :: ·) (ih hb)
  | case6 c cs hb hd hs hq ih =>
    -- The scanner has looked ahead, so what the reader remembers of `c` does not matter.
    have hr : (Region.code.next c).Ready cs := by
      refine Region.ready_ofCode hq (fun hc => ?_) (fun hc h => ?_) fun hc h => ?_
      · cases cs with
        | nil => rfl
        | cons d cs => exact (hb d cs hc rfl).elim
      · obtain ⟨rest, rfl⟩ := List.head?_eq_some_iff.1 h
        exact hd rest hc rfl
      · obtain ⟨rest, rfl⟩ := List.head?_eq_some_iff.1 h
        exact hs rest hc rfl
    rw [region, Region.marks_cons, hr.marks_eq]
    exact congrArg ((c == '?') :: ·) (ih hm)
  | case7 q d cs ih =>
    have hq : q ≠ '\\' := by simpa using hm
    have hn : (Region.quoted q).next '\\' = .quotedEscape q := by simp [Region.next, hq.symm]
    rw [region, Region.marks_cons, hn]
    exact congrArg (false :: false :: ·) (ih hm)
  | case8 q c cs hb ih =>
    have hn : ((Region.quoted q).next c).marks cs =
        (if c = q then normal else quoted q).region.marks cs := by
      by_cases hc : c = q
      · simp [Region.next, hc, region]
      · by_cases he : c = '\\'
        · cases cs with
          | nil => rfl
          | cons d cs => exact (hb d cs he rfl).elim
        · simp [Region.next, hc, he, region]
    rw [region, Region.marks_cons, hn, ih (by split <;> simp_all)]
    rfl
  | case9 c cs ih =>
    have hn : Region.line.next c = (if c = '\n' then normal else line).region := by
      by_cases hc : c = '\n' <;> simp [Region.next, hc, region]
    rw [region, Region.marks_cons, hn, ih (by split <;> simp)]
    rfl
  | case11 c cs he ih =>
    have hn : (Region.block.next c).marks cs = Region.block.marks cs := by
      by_cases hc : c = '*'
      · subst hc
        refine marks_blockStar fun h => ?_
        obtain ⟨rest, rfl⟩ := List.head?_eq_some_iff.1 h
        exact he rest rfl rfl
      · simp [Region.next, hc]
    rw [region, Region.marks_cons, hn]
    exact congrArg (false :: ·) (ih hm)

theorem marks_normal (cs : List Char) : normal.marks cs = Region.code.marks cs :=
  (marks_region .normal cs nofun).symm

/-- The mark in quotes, the one in the comment and the one behind the backslash do not count. -/
example : normal.count "a = ? '\\'?' -- ?\n/*/ ? */ \\? IN (?)".toList = 2 := by decide

end Scanner

/-! ### Tokens -/

/-- A scanner meets a token for what it is: one placeholder or none. -/
theorem Token.Lawful.count_source {t : Token} {rest : List Char} (h : t.Lawful rest) :
    Scanner.normal.count t.source = if t.isPlaceholder then 1 else 0 := by
  rw [Scanner.count, Scanner.marks_normal, h.marks, Token.marks]
  split
  · rename_i ht
    rw [count_map_isMark, h.single ht]
  · rw [List.count_replicate, if_neg (by decide)]

/-- **The placeholders of a text are the `?` that a plain scanner meets in the normal state**: as
many, and at the same places.  What else tokens tell apart changes nothing, since every token has
as many `?` for the scanner as it is placeholders: one if it is an `IN` list or a mark, and none if
it is a name, a cast, a word, a quote or a comment. -/
theorem placeholderCount_eq_scanned (sql : String) :
    placeholderCount sql = Scanner.normal.count sql.toList ∧
      placeholderOffsets sql = (Scanner.normal.marks sql.toList).findIdxs id ∧
      (tokens sql.toList).map (fun t => Scanner.normal.count t.source) =
        (tokens sql.toList).map fun t => if t.isPlaceholder then 1 else 0 := by
  refine ⟨?_, ?_, List.map_congr_left fun t ht => ?_⟩
  · rw [placeholderCount_eq, Region.count, Scanner.count, Scanner.marks_normal]
  · rw [placeholderOffsets_eq, Scanner.marks_normal]
  · obtain ⟨c, rest, rfl⟩ := exists_next_of_mem_tokens ht
    exact (Token.lawful_next c rest).count_source

end BoundQuery
