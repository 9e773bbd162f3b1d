import BoundQuery.Proofs.Binding.Reference
import Mathlib.Data.List.Infix

/-!
# Symbols of a text with references

A text with references is read once, from left to right, as a list of symbols: characters that stand
for themselves, and references.

* `ReadsAs` : how a text is read, said as a grammar; `ReadsAs.unique` and `readsAs_symbols` show
  that **every text is read in exactly one way**, which `symbols` computes;
* `flatMap_source_symbols` : nothing of a text is lost;
* `ReadsAs.append`, `ReadsAs.prepend` : what stands around a text without opening or closing
  anything makes no difference for its reading, so blanks and brackets can be taken away before or
  after it (`symbols_trimChars`, `symbols_eq_brackets_iff`);
* `ReadsAs.splitOn` : **a text whose paths have no comma is split at the commas that are
  read as characters**.
-/

namespace BoundQuery

open Text

/-- What a text with references is made of. -/
inductive Symbol where
  /-- A character that stands for itself. -/
  | char (c : Char)
  /-- A reference by path. -/
  | reference (path : List Char)
deriving DecidableEq

/-- How a text is read. A reference is a path in braces behind a dollar sign; the path is not empty
and ends at the first closing brace. -/
inductive ReadsAs : List Char → List Symbol → Prop
  /-- Nothing. -/
  | nil : ReadsAs [] []
  /-- A reference. -/
  | reference {path after : List Char} {syms : List Symbol} (hpath : path ≠ [])
    (hinner : '\x7d' ∉ path) (h : ReadsAs after syms) :
    ReadsAs ('$' :: '\x7b' :: (path ++ '\x7d' :: after)) (.reference path :: syms)
  /-- Braces with nothing between them stand for themselves. -/
  | empty {after : List Char} {syms : List Symbol} (h : ReadsAs after syms) :
    ReadsAs ('$' :: '\x7b' :: '\x7d' :: after) (.char '$' :: .char '\x7b' :: .char '\x7d' :: syms)
  /-- So does everything from an opening on that is never closed. -/
  | unclosed {after : List Char} (h : '\x7d' ∉ after) :
    ReadsAs ('$' :: '\x7b' :: after) (('$' :: '\x7b' :: after).map .char)
  /-- Any other character stands for itself. -/
  | char {c : Char} {after : List Char} {syms : List Symbol}
    (hopening : ¬ (c = '$' ∧ after.head? = some '\x7b')) (h : ReadsAs after syms) :
    ReadsAs (c :: after) (.char c :: syms)

/-- The symbols of a piece. -/
def Piece.symbols : Piece → List Symbol
  | .literal cs => cs.map .char
  | .reference path => [.reference path]

/-- The symbols of a text. -/
def symbols (cs : List Char) : List Symbol := (splitReferences cs).flatMap Piece.symbols

/-- The text of a symbol. -/
def Symbol.source : Symbol → List Char
  | .char c => [c]
  | .reference path => '$' :: '\x7b' :: (path ++ ['\x7d'])

/-- Whether a symbol is a blank. -/
def Symbol.isBlank : Symbol → Bool
  | .char c => Text.isBlank c
  | .reference _ => false

/-- Symbols without the blanks at both ends. -/
def trimSymbols (syms : List Symbol) : List Symbol :=
  ((syms.dropWhile Symbol.isBlank).reverse.dropWhile Symbol.isBlank).reverse

/-! ### Every text is read in one way -/

/-- The first closing brace is where it is. -/
theorem append_closing_inj {as bs xs ys : List Char} (ha : '\x7d' ∉ as) (hb : '\x7d' ∉ bs)
    (h : as ++ '\x7d' :: xs = bs ++ '\x7d' :: ys) : as = bs ∧ xs = ys := by
  have hsplit := splitClosing?_append ha xs
  rw [h, splitClosing?_append hb ys] at hsplit
  simpa [eq_comm] using hsplit

/-- What an opening may be read as. -/
theorem ReadsAs.opening {cs : List Char} {syms : List Symbol}
    (h : ReadsAs ('$' :: '\x7b' :: cs) syms) :
    (∃ path after rest, cs = path ++ '\x7d' :: after ∧ '\x7d' ∉ path ∧ ReadsAs after rest ∧
      syms = (if path = [] then ['$', '\x7b', '\x7d'].map .char else [.reference path]) ++ rest) ∨
    '\x7d' ∉ cs ∧ syms = ('$' :: '\x7b' :: cs).map .char := by
  cases h with
  | @reference path after rest hpath hinner h =>
    refine .inl ⟨path, after, rest, rfl, hinner, h, ?_⟩
    rw [if_neg hpath]
    rfl
  | @empty after rest h => exact .inl ⟨[], after, rest, rfl, List.not_mem_nil, h, rfl⟩
  | unclosed h => exact .inr ⟨h, rfl⟩
  | char hopening h => exact absurd ⟨rfl, rfl⟩ hopening

/-- What any other character is read as. -/
theorem ReadsAs.of_not_opening {c : Char} {cs : List Char} {syms : List Symbol}
    (hc : ¬ (c = '$' ∧ cs.head? = some '\x7b')) (h : ReadsAs (c :: cs) syms) :
    ∃ rest, ReadsAs cs rest ∧ syms = .char c :: rest := by
  cases h with
  | reference | empty | unclosed => exact absurd ⟨rfl, rfl⟩ hc
  | char _ h => exact ⟨_, h, rfl⟩

/-- **A text is read in one way.** -/
theorem ReadsAs.unique {cs : List Char} {syms other : List Symbol} (h : ReadsAs cs syms)
    (hother : ReadsAs cs other) : other = syms := by
  induction h generalizing other with
  | nil =>
    cases hother
    rfl
  | @reference path after syms hpath hinner h ih =>
    rcases hother.opening with ⟨path', after', rest, heq, hinner', hrest, rfl⟩ | ⟨hnone, -⟩
    · obtain ⟨rfl, rfl⟩ := append_closing_inj hinner hinner' heq
      rw [if_neg hpath, ih hrest]
      rfl
    · exact absurd (List.mem_append_right _ List.mem_cons_self) hnone
  | @empty after syms h ih =>
    rcases hother.opening with ⟨path', after', rest, heq, hinner', hrest, rfl⟩ | ⟨hnone, -⟩
    · obtain ⟨rfl, rfl⟩ := append_closing_inj (@List.not_mem_nil _ '\x7d') hinner' heq
      rw [ih hrest]
      rfl
    · exact absurd List.mem_cons_self hnone
  | @unclosed after h =>
    rcases hother.opening with ⟨path', after', rest, rfl, -⟩ | ⟨-, rfl⟩
    · exact absurd (List.mem_append_right _ List.mem_cons_self) h
    · rfl
  | @char c after syms hopening h ih =>
    obtain ⟨rest, hrest, rfl⟩ := hother.of_not_opening hopening
    rw [ih hrest]

/-- Without a closing brace every character stands for itself. -/
theorem readsAs_of_not_mem {cs : List Char} (h : '\x7d' ∉ cs) : ReadsAs cs (cs.map .char) := by
  induction cs with
  | nil => exact .nil
  | cons c cs ih =>
    have hrest : '\x7d' ∉ cs := fun hc => h (List.mem_cons_of_mem _ hc)
    by_cases hopening : c = '$' ∧ cs.head? = some '\x7b'
    · obtain ⟨rfl, hhead⟩ := hopening
      obtain ⟨after, rfl⟩ := List.head?_eq_some_iff.1 hhead
      exact .unclosed fun hc => hrest (List.mem_cons_of_mem _ hc)
    · exact .char hopening (ih hrest)

/-- Characters in front of the first opening stand for themselves. -/
theorem readsAs_append {before after : List Char} {syms : List Symbol} (h : ¬ HasOpening before)
    (hafter : ReadsAs ('$' :: '\x7b' :: after) syms) :
    ReadsAs (before ++ '$' :: '\x7b' :: after) (before.map .char ++ syms) := by
  induction before with
  | nil => exact hafter
  | cons c before ih =>
    rw [hasOpening_cons_iff, not_or] at h
    exact .char (not_opening_append h.1 _) (ih h.2)

/-- Without an opening every character stands for itself. -/
theorem readsAs_of_not_hasOpening {cs : List Char} (h : ¬ HasOpening cs) :
    ReadsAs cs (cs.map .char) := by
  induction cs with
  | nil => exact .nil
  | cons c cs ih =>
    rw [hasOpening_cons_iff, not_or] at h
    exact .char h.1 (ih h.2)

theorem flatMap_literalPiece (cs : List Char) :
    (literalPiece cs).flatMap Piece.symbols = cs.map .char := by
  unfold literalPiece
  split
  · rename_i hempty
    rw [List.isEmpty_iff.1 hempty]
    rfl
  · exact List.flatMap_singleton ..

/-- What the scan finds is what should be read. -/
theorem Scans.readsAs {cs : List Char} {pieces : List Piece} (h : Scans cs pieces) :
    ReadsAs cs (pieces.flatMap Piece.symbols) := by
  induction h with
  | plain h =>
    rw [flatMap_literalPiece]
    exact readsAs_of_not_hasOpening h
  | unclosed hbefore hafter =>
    rw [List.flatMap_singleton, Piece.symbols, List.map_append]
    exact readsAs_append hbefore (.unclosed hafter)
  | empty hbefore _ ih => simpa [Piece.symbols] using readsAs_append hbefore (.empty ih)
  | reference hbefore hpath hinner _ ih =>
    rw [List.flatMap_append, flatMap_literalPiece, List.flatMap_cons]
    exact readsAs_append hbefore (.reference hpath hinner ih)

/-- **The scan reads a text as it should be read.** -/
theorem readsAs_symbols (cs : List Char) : ReadsAs cs (symbols cs) :=
  (scans_splitReferences cs).readsAs

theorem readsAs_iff {cs : List Char} {syms : List Symbol} :
    ReadsAs cs syms ↔ syms = symbols cs := by
  constructor
  · exact (readsAs_symbols cs).unique
  · rintro rfl
    exact readsAs_symbols cs

@[simp] theorem symbols_nil : symbols [] = [] := (readsAs_iff.1 .nil).symm

theorem Piece.flatMap_source_symbols (piece : Piece) :
    piece.symbols.flatMap Symbol.source = piece.source := by
  cases piece with
  | literal cs =>
    rw [symbols, List.flatMap_map]
    exact List.flatMap_singleton' cs
  | reference path => exact List.flatMap_singleton ..

/-- Nothing of a text is lost. -/
theorem flatMap_source_symbols (cs : List Char) : (symbols cs).flatMap Symbol.source = cs := by
  rw [symbols, List.flatMap_assoc]
  simp only [Piece.flatMap_source_symbols]
  exact (scans_splitReferences cs).source_eq

/-! ### Around a text -/

/-- A text behind which nothing is opened or closed. -/
theorem ReadsAs.append {cs : List Char} {syms : List Symbol} (h : ReadsAs cs syms)
    {back : List Char} (hback : ∀ c ∈ back, c ≠ '\x7b' ∧ c ≠ '\x7d') :
    ReadsAs (cs ++ back) (syms ++ back.map .char) := by
  have hclosing : '\x7d' ∉ back := fun hc => (hback _ hc).2 rfl
  induction h with
  | nil => exact readsAs_of_not_mem hclosing
  | @reference path after syms hpath hinner _ ih =>
    have hsplit : '$' :: '\x7b' :: (path ++ '\x7d' :: after) ++ back =
        '$' :: '\x7b' :: (path ++ '\x7d' :: (after ++ back)) := by simp
    rw [hsplit]
    exact .reference hpath hinner ih
  | empty _ ih => exact .empty ih
  | @unclosed after h =>
    have hnone : '\x7d' ∉ after ++ back := fun hc => (List.mem_append.1 hc).elim h hclosing
    simpa using ReadsAs.unclosed hnone
  | @char c after syms hopening h ih =>
    refine .char ?_ ih
    rintro ⟨hc, hhead⟩
    cases after with
    | nil =>
      obtain ⟨tail, rfl⟩ := List.head?_eq_some_iff.1 hhead
      exact (hback _ List.mem_cons_self).1 rfl
    | cons d after => exact hopening ⟨hc, hhead⟩

/-- A text in front of which nothing is opened. -/
theorem ReadsAs.prepend {cs : List Char} {syms : List Symbol} (h : ReadsAs cs syms)
    {front : List Char} (hfront : ∀ c ∈ front, c ≠ '$') :
    ReadsAs (front ++ cs) (front.map .char ++ syms) := by
  induction front with
  | nil => exact h
  | cons c front ih =>
    have hc := hfront c List.mem_cons_self
    have hrest := ih fun d hd => hfront d (List.mem_cons_of_mem _ hd)
    exact .char (fun hopening => hc hopening.1) hrest

theorem symbols_cons {c : Char} (h : c ≠ '$') (cs : List Char) :
    symbols (c :: cs) = .char c :: symbols cs := by
  have hfront : ∀ d ∈ [c], d ≠ '$' := by
    intro d hd
    rwa [List.mem_singleton.1 hd]
  exact (readsAs_iff.1 ((readsAs_symbols cs).prepend hfront)).symm

theorem symbols_concat {c : Char} (h : c ≠ '\x7b' ∧ c ≠ '\x7d') (cs : List Char) :
    symbols (cs ++ [c]) = symbols cs ++ [.char c] := by
  have hback : ∀ d ∈ [c], d ≠ '\x7b' ∧ d ≠ '\x7d' := by
    intro d hd
    rwa [List.mem_singleton.1 hd]
  exact (readsAs_iff.1 ((readsAs_symbols cs).append hback)).symm

theorem ne_of_isBlank {c d : Char} (hc : isBlank c = true) (hd : isBlank d = false) : c ≠ d := by
  rintro rfl
  rw [hc] at hd
  cases hd

/-- A character in front of all others is the first symbol, if a character is. -/
theorem head_of_symbols {c d : Char} {cs : List Char} {syms : List Symbol}
    (h : symbols (c :: cs) = .char d :: syms) : d = c := by
  have hsource := flatMap_source_symbols (c :: cs)
  rw [h] at hsource
  exact (List.cons.inj hsource).1

/-- A character behind all others is the last symbol, if a character is. -/
theorem last_of_symbols {c d : Char} {cs : List Char} {syms : List Symbol}
    (h : symbols (cs ++ [c]) = syms ++ [.char d]) : d = c := by
  have hsource := flatMap_source_symbols (cs ++ [c])
  rw [h, List.flatMap_append] at hsource
  have hlast := congrArg List.getLast? hsource
  simpa [Symbol.source] using hlast

theorem symbols_dropWhile (cs : List Char) :
    symbols (cs.dropWhile isBlank) = (symbols cs).dropWhile Symbol.isBlank := by
  induction cs with
  | nil => simp
  | cons c cs ih =>
    cases hc : isBlank c with
    | true =>
      have hblank : (Symbol.char c).isBlank = true := hc
      rw [List.dropWhile_cons_of_pos hc, ih, symbols_cons (ne_of_isBlank hc rfl),
        List.dropWhile_cons_of_pos hblank]
    | false =>
      rw [List.dropWhile_cons_of_neg (by simp [hc])]
      cases hsyms : symbols (c :: cs) with
      | nil => rfl
      | cons sym syms =>
        have hsym : sym.isBlank = false := by
          cases sym with
          | char d =>
            obtain rfl := head_of_symbols hsyms
            exact hc
          | reference path => rfl
        rw [List.dropWhile_cons_of_neg (by simp [hsym])]

theorem symbols_trimEndChars (cs : List Char) :
    symbols (trimEndChars cs) =
      ((symbols cs).reverse.dropWhile Symbol.isBlank).reverse := by
  unfold trimEndChars
  induction cs using List.reverseRecOn with
  | nil => simp
  | append_singleton cs c ih =>
    cases hc : isBlank c with
    | true =>
      have hblank : (Symbol.char c).isBlank = true := hc
      have hsyms := symbols_concat ⟨ne_of_isBlank hc rfl, ne_of_isBlank hc rfl⟩ cs
      rw [List.reverse_concat, List.dropWhile_cons_of_pos hc, ih, hsyms, List.reverse_concat,
        List.dropWhile_cons_of_pos hblank]
    | false =>
      rw [List.reverse_concat, List.dropWhile_cons_of_neg (by simp [hc]), ← List.reverse_concat,
        List.reverse_reverse]
      rcases List.eq_nil_or_concat' (symbols (cs ++ [c])) with hsyms | ⟨syms, sym, hsyms⟩
      · rw [hsyms]
        rfl
      · have hsym : sym.isBlank = false := by
          cases sym with
          | char d =>
            obtain rfl := last_of_symbols hsyms
            exact hc
          | reference path => rfl
        rw [hsyms, List.reverse_concat, List.dropWhile_cons_of_neg (by simp [hsym]),
          ← List.reverse_concat, List.reverse_reverse]

/-- The blanks at both ends of a text are read as blanks, and no others. -/
theorem symbols_trimChars (cs : List Char) : symbols (trimChars cs) = trimSymbols (symbols cs) := by
  rw [trimChars, symbols_trimEndChars, trimStartChars, symbols_dropWhile, trimSymbols]

theorem symbols_brackets (inner : List Char) :
    symbols ('[' :: (inner ++ [']'])) = .char '[' :: (symbols inner ++ [.char ']']) := by
  rw [symbols_cons (by decide), symbols_concat (by decide)]

/-- A text is in brackets exactly if its symbols are. -/
theorem symbols_eq_brackets_iff {cs : List Char} {syms : List Symbol} :
    symbols cs = .char '[' :: (syms ++ [.char ']']) ↔
      ∃ inner, cs = '[' :: (inner ++ [']']) ∧ symbols inner = syms := by
  constructor
  · intro h
    have hsource := flatMap_source_symbols cs
    have hcs : cs = '[' :: (syms.flatMap Symbol.source ++ [']']) := by
      rw [← hsource, h]
      simp [Symbol.source]
    refine ⟨syms.flatMap Symbol.source, hcs, ?_⟩
    rw [hcs, symbols_brackets] at h
    exact List.append_cancel_right (List.cons.inj h).2
  · rintro ⟨inner, rfl, rfl⟩
    exact symbols_brackets inner

/-! ### Commas -/

/-- What has no separator stays with what follows it. -/
theorem splitOn_append_of_not_mem {α : Type} [DecidableEq α] {a : α} {as : List α} (h : a ∉ as)
    (bs : List α) : (as ++ bs).splitOn a = (bs.splitOn a).modifyHead (as ++ ·) := by
  induction as with
  | nil =>
    rw [List.nil_append]
    cases bs.splitOn a <;> rfl
  | cons b as ih =>
    rw [List.mem_cons, not_or] at h
    rw [List.cons_append, List.splitOn_cons_eq_if_modifyHead, if_neg (by simpa using Ne.symm h.1),
      ih h.2]
    cases bs.splitOn a <;> rfl

/-- The first part of a text is its front. -/
theorem prefix_of_splitOn {a : Char} {cs part : List Char} {parts : List (List Char)}
    (h : cs.splitOn a = part :: parts) : part <+: cs := by
  have hall : [a].intercalate (cs.splitOn a) = cs := List.intercalate_splitOn a
  rw [h] at hall
  rw [← hall]
  cases parts with
  | nil => simp
  | cons next parts => exact ⟨a :: [a].intercalate (next :: parts), rfl⟩

/-- A front without a comma stays with the first part. -/
theorem map_symbols_splitOn_append {front after : List Char} {first syms : List Symbol}
    (htext : ',' ∉ front) (hsyms : .char ',' ∉ first)
    (hrest : (after.splitOn ',').map symbols = syms.splitOn (.char ','))
    (hfirst : ∀ part, part <+: after → symbols (front ++ part) = first ++ symbols part) :
    ((front ++ after).splitOn ',').map symbols = (first ++ syms).splitOn (.char ',') := by
  rw [splitOn_append_of_not_mem htext, splitOn_append_of_not_mem hsyms, ← hrest]
  cases hparts : after.splitOn ',' with
  | nil => rfl
  | cons part parts => simp [hfirst part (prefix_of_splitOn hparts)]

/-- A character that stands for itself is a comma, or stays with the first part. -/
theorem map_symbols_splitOn_cons {c : Char} {after : List Char} {syms : List Symbol}
    (hrest : (after.splitOn ',').map symbols = syms.splitOn (.char ','))
    (hfirst : ∀ part, part <+: after → symbols (c :: part) = .char c :: symbols part) :
    ((c :: after).splitOn ',').map symbols = (.char c :: syms).splitOn (.char ',') := by
  by_cases hc : c = ','
  · subst hc
    rw [List.splitOn_cons_eq_if_modifyHead, List.splitOn_cons_eq_if_modifyHead, ← hrest]
    simp
  · have htext : ',' ∉ [c] := by simpa using Ne.symm hc
    have hsyms : Symbol.char ',' ∉ [Symbol.char c] := by simpa using Ne.symm hc
    exact map_symbols_splitOn_append htext hsyms hrest hfirst

/-- Where nothing is closed, a text is split as characters. -/
theorem map_symbols_splitOn_of_not_mem {cs : List Char} (h : '\x7d' ∉ cs) :
    (cs.splitOn ',').map symbols = (cs.map Symbol.char).splitOn (.char ',') := by
  induction cs with
  | nil => simp
  | cons c cs ih =>
    refine map_symbols_splitOn_cons (ih fun hc => h (List.mem_cons_of_mem _ hc)) ?_
    intro part hpart
    have hnone : '\x7d' ∉ c :: part := by
      intro hmem
      rcases List.mem_cons.1 hmem with rfl | hmem
      · exact h List.mem_cons_self
      · exact h (List.mem_cons_of_mem _ (hpart.subset hmem))
    rw [← readsAs_iff.1 (readsAs_of_not_mem hnone), List.map_cons,
      readsAs_iff.1 (readsAs_of_not_mem fun hmem => hnone (List.mem_cons_of_mem c hmem))]

/-- **A text whose paths have no comma is split at the commas that are read as characters.** -/
theorem ReadsAs.splitOn {cs : List Char} {syms : List Symbol} (h : ReadsAs cs syms)
    (hcomma : ∀ path, .reference path ∈ syms → ',' ∉ path) :
    (cs.splitOn ',').map symbols = syms.splitOn (.char ',') := by
  induction h with
  | nil => simp
  | @reference path after syms hpath hinner h ih =>
    have hrest := ih fun p hp => hcomma p (List.mem_cons_of_mem _ hp)
    have htext : ',' ∉ '$' :: '\x7b' :: (path ++ ['\x7d']) := by
      simpa using hcomma path List.mem_cons_self
    have hsyms : Symbol.char ',' ∉ [Symbol.reference path] := by simp
    have hsplit : '$' :: '\x7b' :: (path ++ '\x7d' :: after) =
        '$' :: '\x7b' :: (path ++ ['\x7d']) ++ after := by simp
    rw [hsplit]
    refine map_symbols_splitOn_append htext hsyms hrest fun part _ => ?_
    have hreads := readsAs_iff.1 (ReadsAs.reference hpath hinner (readsAs_symbols part))
    rw [List.singleton_append, hreads]
    simp
  | @empty after syms h ih =>
    have hrest := ih fun p hp => hcomma p (by simp [hp])
    have htext : ',' ∉ ['$', '\x7b', '\x7d'] := by decide
    have hsyms : Symbol.char ',' ∉ ['$', '\x7b', '\x7d'].map Symbol.char := by decide
    exact map_symbols_splitOn_append htext hsyms hrest fun part _ =>
      (readsAs_iff.1 (ReadsAs.empty (readsAs_symbols part))).symm
  | @unclosed after h => exact map_symbols_splitOn_of_not_mem (by simpa using h)
  | @char c after syms hopening h ih =>
    refine map_symbols_splitOn_cons (ih fun p hp => hcomma p (List.mem_cons_of_mem _ hp)) ?_
    intro part hpart
    have hc : ¬ (c = '$' ∧ part.head? = some '\x7b') := by
      rintro ⟨hdollar, hhead⟩
      obtain ⟨tail, rfl⟩ := hpart
      exact hopening ⟨hdollar, by rw [List.head?_append, hhead]; rfl⟩
    exact (readsAs_iff.1 (ReadsAs.char hc (readsAs_symbols part))).symm

end BoundQuery
