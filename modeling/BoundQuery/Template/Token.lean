import BoundQuery.Text.Letter

/-!
# Tokens of SQL text

SQL is treated as text. A token is either ordinary text, a region where no placeholder can live,
or one of the three shapes of placeholders.

* `Token`: the kinds of tokens; `Token.source` is the text a token was read from.
* `Token.next`: the first token of a text that is not empty.
* `tokens`: all tokens of a text. `next_rest_length` shows that every token takes at least one
  character, so this ends.
* `placeholderCount`: the number of `?` that stand for a value.
-/

namespace BoundQuery

open Text

/-- A piece of SQL text. -/
inductive Token where
  /-- Ordinary text. -/
  | text (chars : List Char)
  /-- A quoted text, a quoted identifier or a comment. -/
  | inert (chars : List Char)
  /-- A colon and this name. -/
  | named (name : List Char)
  /-- The word `IN` with a single `?` in parentheses, as written. -/
  | inList (chars : List Char)
  /-- A `?` by itself. -/
  | bare
deriving DecidableEq

namespace Token

/-- The text that the token was read from. -/
def source : Token → List Char
  | .text cs => cs
  | .inert cs => cs
  | .named name => ':' :: name
  | .inList cs => cs
  | .bare => ['?']

/-- Whether the token is a `?` that stands for a value, alone or in an `IN` list. -/
def isPlaceholder : Token → Bool
  | .inList _ => true
  | .bare => true
  | _ => false

/-! ### Regions -/

/-- Splits a quoted region, after its opening quote, from what follows it. A backslash takes the
next character with it, and a region that is never closed runs to the end. -/
def quotedRegion (quote : Char) : List Char → List Char × List Char
  | [] => ([], [])
  | [c] => ([c], [])
  | c :: d :: rest =>
    if c = quote then ([c], d :: rest)
    else if c = '\\' then
      let (region, after) := quotedRegion quote rest
      (c :: d :: region, after)
    else
      let (region, after) := quotedRegion quote (d :: rest)
      (c :: region, after)

/-- Splits a block comment, after its opening, from what follows it. A comment that is never
closed runs to the end. -/
def blockComment : List Char → List Char × List Char
  | [] => ([], [])
  | [c] => ([c], [])
  | c :: d :: rest =>
    if c = '*' ∧ d = '/' then ([c, d], rest)
    else
      let (region, after) := blockComment (d :: rest)
      (c :: region, after)

/-- A blank between the parts of an `IN` list. -/
def isListBlank (c : Char) : Bool := c = ' ' || c = '\t' || c = '\r' || c = '\n'

/-- Takes blanks and then the character `c`. -/
def afterBlanks? (c : Char) (cs : List Char) : Option (List Char × List Char) :=
  match cs.dropWhile isListBlank with
  | d :: rest => if d = c then some (cs.takeWhile isListBlank ++ [d], rest) else none
  | [] => none

/-- Takes a `?` in parentheses, with blanks around each part. -/
def singleList? (cs : List Char) : Option (List Char × List Char) :=
  match afterBlanks? '(' cs with
  | none => none
  | some (opening, cs) =>
    match afterBlanks? '?' cs with
    | none => none
    | some (mark, cs) =>
      match afterBlanks? ')' cs with
      | none => none
      | some (closing, cs) => some (opening ++ mark ++ closing, cs)

/-- Whether a character starts the name of a placeholder. -/
def isNameStart (c : Char) : Bool := c.isAlpha || c = '_'

/-- Whether a character continues the name of a placeholder. -/
def isNameChar (c : Char) : Bool := c.isAlphanum || c = '_'

/-! ### Tokens -/

/-- The token at the start of a text where neither a region nor a placeholder begins: a word, or
one character. -/
def plain (c : Char) (rest : List Char) : Token × List Char :=
  if isWordChar c then (.text (c :: rest.takeWhile isWordChar), rest.dropWhile isWordChar)
  else (.text [c], rest)

/-- Whether two characters are the word `IN` in any case. -/
def isIn (c d : Char) : Bool := (c = 'I' || c = 'i') && (d = 'N' || d = 'n')

/-- The first token of the text `c :: rest`, and the text after it. -/
def next (c : Char) (rest : List Char) : Token × List Char :=
  if c = '\x27' ∨ c = '"' then
    (.inert (c :: (quotedRegion c rest).1), (quotedRegion c rest).2)
  else if c = '?' then (.bare, rest)
  else
    match rest with
    | [] => plain c []
    | d :: more =>
      if c = '-' ∧ d = '-' then
        (.inert (c :: d :: more.takeWhile (· ≠ '\n')), more.dropWhile (· ≠ '\n'))
      else if c = '/' ∧ d = '*' then
        (.inert (c :: d :: (blockComment more).1), (blockComment more).2)
      else if c = ':' ∧ d = ':' then (.text [c, d], more)
      else if c = ':' ∧ isNameStart d then
        (.named (d :: more.takeWhile isNameChar), more.dropWhile isNameChar)
      else if c = '\\' then (.text [c, d], more)
      else if isIn c d then
        match singleList? more with
        | some (list, after) => (.inList (c :: d :: list), after)
        | none => plain c (d :: more)
      else plain c (d :: more)

theorem length_dropWhile_le {α : Type} (p : α → Bool) (l : List α) :
    (l.dropWhile p).length ≤ l.length := by
  induction l with
  | nil => simp
  | cons a l ih =>
    simp only [List.dropWhile_cons, List.length_cons]
    split
    · omega
    · simp only [List.length_cons]; omega

theorem quotedRegion_length (quote : Char) (cs : List Char) :
    (quotedRegion quote cs).2.length ≤ cs.length := by
  fun_induction quotedRegion quote cs <;> simp_all <;> omega

theorem blockComment_length (cs : List Char) : (blockComment cs).2.length ≤ cs.length := by
  fun_induction blockComment cs <;> simp_all <;> omega

theorem afterBlanks?_length {c : Char} {cs : List Char} {part rest : List Char}
    (h : afterBlanks? c cs = some (part, rest)) : rest.length ≤ cs.length := by
  unfold afterBlanks? at h
  have hl := length_dropWhile_le isListBlank cs
  split at h
  · rename_i d r hd
    rw [hd] at hl
    split at h <;> simp at h
    obtain ⟨_, rfl⟩ := h
    simp at hl; omega
  · simp at h

theorem singleList?_length {cs list rest : List Char}
    (h : singleList? cs = some (list, rest)) : rest.length ≤ cs.length := by
  unfold singleList? at h
  split at h
  · simp at h
  · rename_i h₁
    split at h
    · simp at h
    · rename_i h₂
      split at h
      · simp at h
      · rename_i h₃
        simp at h
        obtain ⟨_, rfl⟩ := h
        have := afterBlanks?_length h₁
        have := afterBlanks?_length h₂
        have := afterBlanks?_length h₃
        omega

theorem plain_length (c : Char) (rest : List Char) :
    (plain c rest).2.length ≤ rest.length := by
  unfold plain
  have := length_dropWhile_le isWordChar rest
  split <;> simp_all

/-- Every token takes at least one character. -/
theorem next_rest_length (c : Char) (rest : List Char) :
    (next c rest).2.length ≤ rest.length := by
  unfold next
  split
  · exact quotedRegion_length c rest
  split
  · simp
  split
  · exact plain_length c []
  rename_i d more
  have hp := plain_length c (d :: more)
  have hl := length_dropWhile_le (fun c => decide (c ≠ '\n')) more
  have hb := blockComment_length more
  have hn := length_dropWhile_le isNameChar more
  have hs : ∀ list after, singleList? more = some (list, after) → after.length ≤ more.length :=
    fun _ _ => singleList?_length
  simp only [List.length_cons] at hp ⊢
  repeat' split
  all_goals grind

end Token

/-- The tokens of a text, in order. -/
def tokens : List Char → List Token
  | [] => []
  | c :: rest => (Token.next c rest).1 :: tokens (Token.next c rest).2
termination_by cs => cs.length
decreasing_by
  have := Token.next_rest_length c rest
  simp; omega

/-- The number of `?` in a text that stand for a value: those outside quotes and comments. -/
def placeholderCount (sql : String) : Nat := (tokens sql.toList).countP Token.isPlaceholder

end BoundQuery
