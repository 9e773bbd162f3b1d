import BoundQuery.Proofs.Scan.Token

/-!
# Tokens as an ordered choice

Which token a text starts with can be said as a list of readers, one for each shape of a token: the
first reader that does not refuse wins.  A comment comes before a mark, a cast before a name, an
`IN` list before a word, and a single character comes last.

* `TokenReader` : a reader of one shape; `TokenReader.all` : the readers, the preferred ones first;
* `TokenReader.first?` : what the first of them takes that does not refuse;
* `TokenReader.first?_cons` : **on a text that is not empty some reader does not refuse, and the
  choice is `Token.next`**;
* `TokenReader.step` : what one step does: it takes text of its own, and loses none.
-/

namespace BoundQuery

open Text

/-- A reader of one shape of a token. It takes a token from the front of a text, or refuses. -/
abbrev TokenReader := List Char → Option (Token × List Char)

namespace TokenReader

/-- Takes a token that starts with a character of a kind. -/
def one (p : Char → Bool) (take : Char → List Char → Token × List Char) : TokenReader
  | c :: cs => if p c then some (take c cs) else none
  | [] => none

/-- Takes a token that starts with two characters that go together. -/
def two (p : Char → Char → Bool) (take : Char → Char → List Char → Token × List Char) :
    TokenReader
  | c :: d :: cs => if p c d then some (take c d cs) else none
  | _ => none

/-- A comment up to the end of the line. -/
def lineComment : TokenReader :=
  two (fun c d => c = '-' ∧ d = '-') fun c d cs =>
    (.inert (c :: d :: cs.takeWhile (· ≠ '\n')), cs.dropWhile (· ≠ '\n'))

/-- A comment up to where it is closed. -/
def blockComment : TokenReader :=
  two (fun c d => c = '/' ∧ d = '*') fun c d cs =>
    (.inert (c :: d :: (Token.blockComment cs).1), (Token.blockComment cs).2)

/-- A region between two of these quotes. -/
def quoted (q : Char) : TokenReader :=
  one (· = q) fun c cs => (.inert (c :: (Token.quotedRegion c cs).1), (Token.quotedRegion c cs).2)

/-- The two colons of a cast. -/
def cast : TokenReader := two (fun c d => c = ':' ∧ d = ':') fun c d cs => (.text [c, d], cs)

/-- A colon and a name. -/
def named : TokenReader :=
  two (fun c d => c = ':' ∧ Token.isNameStart d) fun _ d cs =>
    (.named (d :: cs.takeWhile Token.isNameChar), cs.dropWhile Token.isNameChar)

/-- The word `IN` with a `?` in parentheses. -/
def inList : TokenReader
  | c :: d :: cs =>
    if Token.isIn c d then
      (Token.singleList? cs).map fun (list, after) => (.inList (c :: d :: list), after)
    else none
  | _ => none

/-- A `?`. -/
def bare : TokenReader := one (· = '?') fun _ cs => (.bare, cs)

/-- A backslash with the character behind it. -/
def escape : TokenReader := two (fun c _ => c = '\\') fun c d cs => (.text [c, d], cs)

/-- A whole word. -/
def word : TokenReader :=
  one isWordChar fun c cs => (.text (c :: cs.takeWhile isWordChar), cs.dropWhile isWordChar)

/-- A single character. -/
def single : TokenReader := one (fun _ => true) fun c cs => (.text [c], cs)

/-- All readers, the preferred ones first. -/
def all : List TokenReader :=
  [lineComment, blockComment, quoted '\x27', quoted '"', cast, named, inList, bare, escape, word,
    single]

/-- What the first reader that does not refuse takes from a text. -/
def first? (cs : List Char) : Option (Token × List Char) := all.findSome? fun read => read cs

/-! ### One choice after the other -/

/-- The first reader of a list decides, or the others do. -/
theorem findSome?_cons_or (read : TokenReader) (others : List TokenReader) (cs : List Char) :
    ((read :: others).findSome? fun r => r cs) = (read cs).or (others.findSome? fun r => r cs) := by
  rw [List.findSome?_cons]
  cases read cs <;> rfl

theorem first?_eq (cs : List Char) :
    first? cs =
      (lineComment cs).or ((blockComment cs).or ((quoted '\x27' cs).or ((quoted '"' cs).or
        ((cast cs).or ((named cs).or ((inList cs).or ((bare cs).or ((escape cs).or
          ((word cs).or (single cs)))))))))) := by
  simp only [first?, all, findSome?_cons_or, List.findSome?_nil, Option.or_none]

theorem or_guard {α : Type} {p : Prop} [Decidable p] (a b : α) :
    (if p then some a else none).or (some b) = some (if p then a else b) := by
  split <;> rfl

/-- A word, or a single character: what is taken where no region and no placeholder begins. -/
theorem word_or_single (c : Char) (cs : List Char) :
    (word (c :: cs)).or (single (c :: cs)) = some (Token.plain c cs) := or_guard _ _

theorem inList_or (c d : Char) (cs : List Char) (other : Token × List Char) :
    (inList (c :: d :: cs)).or (some other) =
      some (if Token.isIn c d then
          match Token.singleList? cs with
          | some (list, after) => (.inList (c :: d :: list), after)
          | none => other
        else other) := by
  rw [inList]
  split
  · cases Token.singleList? cs <;> rfl
  · rfl

theorem one_eq_none {p : Char → Bool} {c : Char} (h : p c = false)
    (take : Char → List Char → Token × List Char) (cs : List Char) :
    one p take (c :: cs) = none := by
  simp [one, h]

/-! ### The choice -/

/-- **On a text that is not empty the choice is the first token of the text.** -/
theorem first?_cons (c : Char) (rest : List Char) :
    first? (c :: rest) = some (Token.next c rest) := by
  rw [first?_eq, word_or_single]
  unfold Token.next
  split
  · rename_i hq
    rcases hq with rfl | rfl <;> cases rest <;> rfl
  rename_i hq
  obtain ⟨hsingle, hdouble⟩ := not_or.1 hq
  rw [quoted, one_eq_none (decide_eq_false hsingle), quoted,
    one_eq_none (decide_eq_false hdouble)]
  split
  · rename_i hm
    subst hm
    cases rest <;> rfl
  rename_i hm
  rw [bare, one_eq_none (decide_eq_false hm)]
  cases rest with
  | nil => rfl
  | cons d more =>
    simp only [Option.none_or, escape, lineComment, blockComment, cast, named, two, or_guard,
      inList_or, decide_eq_true_eq]
    -- A backslash does not start the word `IN`, so the order of these two does not matter.
    by_cases hb : c = '\\'
    · subst hb
      have hi : Token.isIn '\\' d = false := rfl
      simp [hi]
    · cases Token.singleList? more <;> simp only [if_neg hb]

theorem first?_eq_none_iff {cs : List Char} : first? cs = none ↔ cs = [] := by
  cases cs with
  | nil => exact iff_of_true rfl rfl
  | cons c rest => exact iff_of_false (by rw [first?_cons]; nofun) nofun

/-- **One step.**  From a text that is not empty a token is taken which has a text of its own; with
the text after it, which is shorter, this is the text; and the other tokens are those of the text
after it. -/
theorem step (c : Char) (rest : List Char) :
    ∃ t after, first? (c :: rest) = some (t, after) ∧ t.source ≠ [] ∧
      t.source ++ after = c :: rest ∧ after.length < (c :: rest).length ∧
        tokens (c :: rest) = t :: tokens after := by
  obtain ⟨tail, ht⟩ := Token.source_next_eq c rest
  refine ⟨(Token.next c rest).1, (Token.next c rest).2, first?_cons c rest, ?_,
    Token.source_next c rest, Nat.lt_succ_of_le (Token.next_rest_length c rest), by rw [tokens]⟩
  rw [ht]
  exact List.cons_ne_nil c tail

end TokenReader

end BoundQuery
