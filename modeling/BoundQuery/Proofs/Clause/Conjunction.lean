import BoundQuery.Proofs.Clause.Tally
import BoundQuery.Proofs.Pipeline.Nesting

/-!
# Conditions on groups of rows

A HAVING clause joins its entries by `AND`, and the expressions among them are put in as they are
given.  Which words of them connect the whole clause depends on what stands outside of quotes and
parentheses, where the quotes are those of the dialect.

* `Place` : where a reader of a clause stands, and `Dialect.outside` : what it reads outside of
  quotes and parentheses;
* `Dialect.outerWords` : the words there;
* `Covers` : texts without words of that kind inside of parentheses; `exists_havingAggregate` shows
  that an aggregate has only its name outside of them;
* `Scope.having_outerWords` : **the words of a clause are those of its entries, with `AND` between
  them.**  So an `OR` connects the whole clause exactly if it connects an expression.

An expression with such an `OR` is the gap: it takes part of its neighbours with it
(`Scope.having_regrouped`).
-/

namespace BoundQuery

open Text

/-! ### Words outside of quotes and parentheses -/

/-- The words of a text, in upper case. -/
def wordsOf (cs : List Char) : List String :=
  ((cs.splitOnP fun c => !isWordChar c).filter fun w => !w.isEmpty).map fun w =>
    upper (String.ofList w)

/-- Where a reader of a clause stands. -/
structure Place where
  /-- The quote that is open, if one is. -/
  quote : Option Char
  /-- The number of open parentheses. -/
  depth : Nat
deriving DecidableEq

/-- Outside of quotes and parentheses. -/
def Place.outer : Place := ⟨none, 0⟩

namespace Dialect

/-- Whether a character is a quote: of texts, or of names. -/
def isQuote (d : Dialect) (c : Char) : Bool := c = '\x27' || c = '"' || c = d.quoteChar

/-- The place after one more character. -/
def place (d : Dialect) : Place → Char → Place
  | ⟨some q, depth⟩, c => if c = q then ⟨none, depth⟩ else ⟨some q, depth⟩
  | ⟨none, depth⟩, c => if d.isQuote c then ⟨some c, depth⟩ else ⟨none, openBehind depth [c]⟩

/-- The place after a text. -/
def placeAfter (d : Dialect) (p : Place) (cs : List Char) : Place := cs.foldl d.place p

/-- A text with blanks in the place of all that is read in quotes and parentheses. -/
def outside (d : Dialect) : Place → List Char → List Char
  | _, [] => []
  | p, c :: cs => (if p = .outer then c else ' ') :: d.outside (d.place p c) cs

/-- The words of a text outside of quotes and parentheses. -/
def outerWords (d : Dialect) (sql : String) : List String :=
  wordsOf (d.outside .outer sql.toList)

end Dialect

/-- Whether the text of an entry, if it has one, hides nothing and closes its own parentheses. -/
def HavingItem.Neat (d : Dialect) : HavingItem → Prop
  | .expression sql => BoundQuery.Neat sql ∧ d.quoteChar ∉ sql.toList
  | .aggregate _ _ _ _ => True

instance HavingItem.decidableNeat (d : Dialect) (item : HavingItem) : Decidable (item.Neat d) :=
  match item with
  | .expression sql => inferInstanceAs (Decidable (BoundQuery.Neat sql ∧ d.quoteChar ∉ sql.toList))
  | .aggregate _ _ _ _ => .isTrue trivial

/-- The words of an entry outside of quotes and parentheses. -/
def HavingItem.outerWords (d : Dialect) : HavingItem → List String
  | .expression sql => d.outerWords sql
  | .aggregate function _ _ _ => [function.name]

/-! ### Words -/

theorem wordsOf_append {c : Char} (h : isWordChar c = false) (as bs : List Char) :
    wordsOf (as ++ c :: bs) = wordsOf as ++ wordsOf bs := by
  rw [wordsOf, List.splitOnP_append_cons as bs (by simp [h]), List.filter_append, List.map_append]
  rfl

theorem isWordChar_of_isBlank {c : Char} (h : isBlank c = true) : isWordChar c = false := by
  have hbreaks := breaks_of_isGap (Bool.or_eq_true_iff.2 (.inl h))
  simp only [breaks, Bool.and_eq_true, Bool.not_eq_true'] at hbreaks
  exact hbreaks.1.1.1.1

theorem wordsOf_nil : wordsOf [] = [] := by simp [wordsOf, List.splitOnP_nil]

theorem wordsOf_cons {c : Char} (h : isWordChar c = false) (cs : List Char) :
    wordsOf (c :: cs) = wordsOf cs := by
  have happend := wordsOf_append h [] cs
  rwa [wordsOf_nil] at happend

/-- Characters that belong to no word make no difference in front of a text. -/
theorem wordsOf_front {front : List Char} (h : ∀ c ∈ front, isWordChar c = false)
    (cs : List Char) : wordsOf (front ++ cs) = wordsOf cs := by
  induction front with
  | nil => rfl
  | cons c front ih =>
    rw [List.cons_append, wordsOf_cons (h c List.mem_cons_self)]
    exact ih fun d hd => h d (List.mem_cons_of_mem _ hd)

/-- Characters that belong to no word make no difference behind a text. -/
theorem wordsOf_back {back : List Char} (h : ∀ c ∈ back, isWordChar c = false)
    (cs : List Char) : wordsOf (cs ++ back) = wordsOf cs := by
  cases back with
  | nil => rw [List.append_nil]
  | cons c back =>
    have hnone : ∀ d ∈ back, isWordChar d = false := fun d hd => h d (List.mem_cons_of_mem _ hd)
    have hrest := wordsOf_front hnone []
    rw [List.append_nil, wordsOf_nil] at hrest
    rw [wordsOf_append (h c List.mem_cons_self), hrest, List.append_nil]

namespace Dialect

variable {d : Dialect}

theorem placeAfter_append (p : Place) (as bs : List Char) :
    d.placeAfter p (as ++ bs) = d.placeAfter (d.placeAfter p as) bs := List.foldl_append

theorem outside_append (p : Place) (as bs : List Char) :
    d.outside p (as ++ bs) = d.outside p as ++ d.outside (d.placeAfter p as) bs := by
  induction as generalizing p with
  | nil => rfl
  | cons a as ih =>
    rw [List.cons_append, outside, outside, ih]
    rfl

/-- Behind a text without quotes, only the parentheses count. -/
theorem placeAfter_of_not_isQuote {cs : List Char} (h : ∀ c ∈ cs, d.isQuote c = false)
    (depth : Nat) : d.placeAfter ⟨none, depth⟩ cs = ⟨none, openBehind depth cs⟩ := by
  induction cs generalizing depth with
  | nil => rfl
  | cons c cs ih =>
    have hstep : d.place ⟨none, depth⟩ c = ⟨none, openBehind depth [c]⟩ := by
      rw [place, if_neg (by simp [h c List.mem_cons_self])]
    have hrest := ih (fun e he => h e (List.mem_cons_of_mem _ he)) (openBehind depth [c])
    rw [← openBehind_append, List.singleton_append] at hrest
    rw [← hrest, ← hstep]
    rfl

theorem isQuote_of_isBlank {c : Char} (h : isBlank c = true) : d.isQuote c = false := by
  have hne : ∀ q : Char, isBlank q = false → c ≠ q := by
    rintro q hq rfl
    rw [h] at hq
    cases hq
  have hchar : isBlank d.quoteChar = false := by cases d <;> rfl
  simp [isQuote, hne '\x27' rfl, hne '"' rfl, hne _ hchar]

/-- Blanks are read as they are, and the reader stays where it is. -/
theorem outside_blanks {cs : List Char} (h : ∀ c ∈ cs, isBlank c = true) :
    d.outside .outer cs = cs ∧ d.placeAfter .outer cs = .outer := by
  induction cs with
  | nil => exact ⟨rfl, rfl⟩
  | cons c cs ih =>
    obtain ⟨houtside, hafter⟩ := ih fun e he => h e (List.mem_cons_of_mem _ he)
    have hc := h c List.mem_cons_self
    have hstep : d.place .outer c = .outer := by
      rw [Place.outer, place, if_neg (by simp [isQuote_of_isBlank hc]),
        openBehind_cons (isParen_of_isBlank hc)]
      rfl
    constructor
    · rw [outside, if_pos rfl, hstep, houtside]
    · change d.placeAfter (d.place .outer c) cs = _
      rw [hstep, hafter]

/-- Between quotes everything is hidden, quotes that are written twice included. -/
theorem placeAfter_doubled {q : Char} (hq : d.isQuote q = true) (cs : List Char) (depth : Nat) :
    d.placeAfter ⟨some q, depth + 1⟩ (doubled q cs) = ⟨some q, depth + 1⟩ ∧
      d.outside ⟨some q, depth + 1⟩ (doubled q cs) =
        List.replicate (doubled q cs).length ' ' := by
  induction cs with
  | nil => exact ⟨rfl, rfl⟩
  | cons c cs ih =>
    obtain ⟨hafter, hblank⟩ := ih
    have hfirst : d.placeAfter ⟨some q, depth + 1⟩ (if c = q then [q, q] else [c]) =
          ⟨some q, depth + 1⟩ ∧
        d.outside ⟨some q, depth + 1⟩ (if c = q then [q, q] else [c]) =
          List.replicate (if c = q then [q, q] else [c]).length ' ' := by
      split
      · simp [placeAfter, outside, place, hq, Place.outer]
      · rename_i hc
        simp [placeAfter, outside, place, hc, Place.outer]
    rw [doubled, List.flatMap_cons, placeAfter_append, outside_append, hfirst.1, hfirst.2,
      List.length_append, ← List.replicate_append_replicate]
    exact ⟨hafter, congrArg _ hblank⟩

end Dialect

/-! ### Texts in parentheses -/

/-- Whether a text that is read inside of `m + 1` parentheses ends inside of `n + 1` of them and
never leaves all of them. -/
structure Covers (d : Dialect) (sql : String) (m n : Nat) : Prop where
  /-- The place behind the text. -/
  after : d.placeAfter ⟨none, m + 1⟩ sql.toList = ⟨none, n + 1⟩
  /-- Nothing is read outside of parentheses. -/
  blank : d.outside ⟨none, m + 1⟩ sql.toList = List.replicate sql.toList.length ' '

theorem Covers.append {d : Dialect} {a b : String} {l m n : Nat} (ha : Covers d a l m)
    (hb : Covers d b m n) : Covers d (a ++ b) l n where
  after := by rw [String.toList_append, Dialect.placeAfter_append, ha.after, hb.after]
  blank := by
    rw [String.toList_append, Dialect.outside_append, ha.after, ha.blank, hb.blank,
      List.replicate_append_replicate, List.length_append]

theorem covers_quote (d : Dialect) (name : String) (n : Nat) : Covers d (d.quote name) n n := by
  have hquote : d.isQuote d.quoteChar = true := by simp [Dialect.isQuote]
  have hfirst : d.place ⟨none, n + 1⟩ d.quoteChar = ⟨some d.quoteChar, n + 1⟩ := by
    rw [Dialect.place, if_pos hquote]
  have hlast : d.place ⟨some d.quoteChar, n + 1⟩ d.quoteChar = ⟨none, n + 1⟩ := by
    simp [Dialect.place]
  obtain ⟨hafter, hblank⟩ := Dialect.placeAfter_doubled hquote name.toList n
  rw [Dialect.quote]
  constructor
  · rw [String.toList_ofList, List.cons_append]
    change d.placeAfter (d.place ⟨none, n + 1⟩ d.quoteChar) (_ ++ _) = _
    rw [hfirst, Dialect.placeAfter_append, hafter]
    exact hlast
  · rw [String.toList_ofList, List.cons_append, Dialect.outside, hfirst, Dialect.outside_append,
      hafter, hblank, List.length_cons, List.length_append, List.replicate_succ,
      ← List.replicate_append_replicate]
    rfl

theorem covers_decimalCast (d : Dialect) (name : String) :
    Covers d (d.decimalCast (d.quote name)) 0 0 := by
  have hname := covers_quote d name 1
  cases d with
  | db2 => exact (Covers.append ⟨rfl, rfl⟩ hname).append ⟨rfl, rfl⟩
  | postgres | mysql | sqlite => exact (Covers.append ⟨rfl, rfl⟩ hname).append ⟨rfl, rfl⟩

/-- An aggregate has its name and, in parentheses, what it is taken of. -/
theorem Scope.exists_havingAggregate {s : Scope} {function : Aggregate} {field : Option String}
    {sql : String} (h : s.havingAggregate function field = .ok sql) :
    ∃ body, Covers s.dialect body 0 0 ∧ sql = function.name ++ ("(" ++ body ++ ")") := by
  have hstar : Covers s.dialect "*" 0 0 := by cases s.dialect <;> exact ⟨rfl, rfl⟩
  unfold havingAggregate at h
  split at h
  · cases h
    exact ⟨"*", hstar, rfl⟩
  · split at h
    · cases h
      exact ⟨"*", hstar, rfl⟩
    · obtain ⟨c, -, rfl⟩ := map_eq_ok_iff.1 h
      refine ⟨s.quote c.name, covers_quote _ _ 0, ?_⟩
      rw [show "COUNT(" = "COUNT" ++ "(" from rfl, String.append_assoc, String.append_assoc,
        String.append_assoc]
      rfl
  · cases h
  · split at h
    · cases h
    · rename_i c _
      split at h
      · cases h
        refine ⟨_, covers_decimalCast _ c.name, ?_⟩
        rw [String.append_assoc, String.append_assoc, String.append_assoc]
        rfl
      · cases h

/-! ### Entries -/

/-- Whether a text ends outside of quotes and parentheses, with these words outside of them. -/
structure Outer (d : Dialect) (sql : String) (words : List String) : Prop where
  /-- The place behind the text. -/
  after : d.placeAfter .outer sql.toList = .outer
  /-- The words outside of quotes and parentheses. -/
  words : d.outerWords sql = words

/-- Texts with a blank between them. -/
theorem Outer.spaced {d : Dialect} {a b : String} {words more : List String} (ha : Outer d a words)
    (hb : Outer d b more) : Outer d (a ++ (" " ++ b)) (words ++ more) := by
  have hblank : d.place .outer ' ' = .outer := by cases d <;> rfl
  have hfirst : (" " ++ b).toList = ' ' :: b.toList := by
    rw [String.toList_append]
    rfl
  constructor
  · rw [String.toList_append, Dialect.placeAfter_append, ha.after, hfirst]
    change d.placeAfter (d.place .outer ' ') b.toList = _
    rw [hblank, hb.after]
  · rw [Dialect.outerWords, String.toList_append, Dialect.outside_append, ha.after, hfirst,
      Dialect.outside, if_pos rfl, hblank, wordsOf_append rfl]
    exact congrArg₂ _ ha.words hb.words

/-- A text without quotes whose parentheses close each other, without the blanks at its ends. -/
theorem outer_trim {d : Dialect} {sql : String} (hquote : ∀ c ∈ sql.toList, d.isQuote c = false)
    (hnested : Nested sql.toList) : Outer d (trim sql) (d.outerWords sql) := by
  obtain ⟨front, back, hblank, hsplit⟩ := exists_trimChars sql.toList
  have hfrontBlank : ∀ c ∈ front, isBlank c = true := fun c hc =>
    hblank c (List.mem_append_left _ hc)
  have hbackBlank : ∀ c ∈ back, isBlank c = true := fun c hc =>
    hblank c (List.mem_append_right _ hc)
  obtain ⟨hfront, hfrontAfter⟩ := Dialect.outside_blanks (d := d) hfrontBlank
  have hback := (Dialect.outside_blanks (d := d) hbackBlank).1
  have hmiddle : ∀ c ∈ trimChars sql.toList, d.isQuote c = false := by
    intro c hc
    refine hquote c ?_
    rw [hsplit]
    simp [hc]
  have hafter : d.placeAfter .outer (trimChars sql.toList) = .outer := by
    have hplace := Dialect.placeAfter_of_not_isQuote hmiddle 0
    rwa [hnested.trimChars.openBehind_eq] at hplace
  constructor
  · rw [toList_trim]
    exact hafter
  · have hall : d.outside .outer sql.toList =
        front ++ d.outside .outer (trimChars sql.toList) ++ back := by
      conv_lhs => rw [hsplit]
      rw [Dialect.outside_append, Dialect.outside_append, Dialect.placeAfter_append, hfront,
        hfrontAfter, hafter, hback]
    rw [Dialect.outerWords, Dialect.outerWords, toList_trim, hall,
      wordsOf_back fun c hc => isWordChar_of_isBlank (hbackBlank c hc),
      wordsOf_front fun c hc => isWordChar_of_isBlank (hfrontBlank c hc)]

/-- A name and, in parentheses, what it is applied to, compared with a value. -/
theorem outer_comparison {d : Dialect} {function : Aggregate} {body symbol : String}
    (hbody : Covers d body 0 0) {operator : Operator}
    (hsymbol : operator.comparison? = some symbol) :
    Outer d (function.name ++ ("(" ++ body ++ ")") ++ " " ++ symbol ++ " ?") [function.name] := by
  have hname : d.placeAfter .outer (function.name ++ "(").toList = ⟨none, 1⟩ ∧
      d.outside .outer (function.name ++ "(").toList = function.name.toList ++ ['('] := by
    cases d <;> cases function <;> exact ⟨rfl, rfl⟩
  have htail : d.placeAfter ⟨none, 1⟩ (")" ++ " " ++ symbol ++ " ?").toList = .outer ∧
      d.outside ⟨none, 1⟩ (")" ++ " " ++ symbol ++ " ?").toList =
        ' ' :: (" " ++ symbol ++ " ?").toList := by
    cases operator <;> cases hsymbol <;> cases d <;> exact ⟨rfl, rfl⟩
  have hsigns : ∀ c ∈ (" " ++ symbol ++ " ?").toList, isWordChar c = false := by
    have hall : (" " ++ symbol ++ " ?").toList.all (!isWordChar ·) = true := by
      cases operator <;> cases hsymbol <;> decide +kernel
    intro c hc
    simpa using List.all_eq_true.1 hall c hc
  have hhidden : ∀ c ∈ '(' :: List.replicate body.toList.length ' ', isWordChar c = false := by
    refine List.forall_mem_cons.2 ⟨rfl, fun c hc => ?_⟩
    rw [List.eq_of_mem_replicate hc]
    rfl
  have hword : wordsOf function.name.toList = [function.name] := by
    cases function <;> decide +kernel
  have hsplit : function.name ++ ("(" ++ body ++ ")") ++ " " ++ symbol ++ " ?" =
      function.name ++ "(" ++ body ++ (")" ++ " " ++ symbol ++ " ?") := by
    simp only [String.append_assoc]
  rw [hsplit]
  constructor
  · rw [String.toList_append, String.toList_append, Dialect.placeAfter_append,
      Dialect.placeAfter_append, hname.1, hbody.after, htail.1]
  · rw [Dialect.outerWords, String.toList_append, String.toList_append, Dialect.outside_append,
      Dialect.outside_append, Dialect.placeAfter_append, hname.1, hname.2, hbody.after, hbody.blank,
      htail.2, wordsOf_back (List.forall_mem_cons.2 ⟨rfl, hsigns⟩), List.append_assoc,
      List.singleton_append, wordsOf_back hhidden, hword]

/-- Texts with `AND` between them. -/
theorem outer_intercalate {d : Dialect} {parts : List String} {words : List (List String)}
    (h : List.Forall₂ (Outer d) parts words) :
    Outer d (" AND ".intercalate parts) (["AND"].intercalate words) := by
  have hand : Outer d "AND" ["AND"] := by cases d <;> exact ⟨rfl, by decide +kernel⟩
  induction h with
  | nil => exact ⟨rfl, wordsOf_nil⟩
  | @cons part first parts rest hpart hrest ih =>
    cases hrest with
    | nil => simpa using hpart
    | @cons next second parts rest hnext hrest =>
      have hsplit : " AND ".intercalate (part :: next :: parts) =
          part ++ (" " ++ ("AND" ++ (" " ++ " AND ".intercalate (next :: parts)))) := by
        rw [String.intercalate_cons_cons, show " AND " = " " ++ ("AND" ++ " ") from rfl]
        simp only [String.append_assoc]
      rw [hsplit]
      exact hpart.spaced (hand.spaced ih)

/-- A word that is not `AND` stands among the words of a conjunction if one of the parts has it. -/
theorem mem_intercalate_iff {word : String} (hword : word ≠ "AND") {words : List (List String)} :
    word ∈ ["AND"].intercalate words ↔ ∃ part ∈ words, word ∈ part := by
  induction words with
  | nil => simp
  | cons first words ih =>
    cases words with
    | nil => simp
    | cons second words =>
      have hsplit : ["AND"].intercalate (first :: second :: words) =
          first ++ "AND" :: ["AND"].intercalate (second :: words) := rfl
      rw [hsplit, List.mem_append, List.mem_cons, ih, List.exists_mem_cons_iff]
      simp [hword]

namespace Scope

variable {s : Scope}

/-- What an entry compiles to. -/
theorem outer_havingItem {item : HavingItem} (hitem : item.Neat s.dialect) {f : Fragment}
    (h : s.havingItem item = .ok f) : Outer s.dialect f.sql (item.outerWords s.dialect) := by
  cases item with
  | aggregate function field operator value =>
    rw [havingItem] at h
    split at h
    · cases h
    rename_i symbol hsymbol
    split at h
    · cases h
    rename_i expression hexpression
    split at h
    · cases h
    cases h
    obtain ⟨body, hbody, rfl⟩ := exists_havingAggregate hexpression
    exact outer_comparison hbody hsymbol
  | expression sql =>
    obtain ⟨hneat, hchar⟩ := hitem
    simp only [havingItem] at h
    split at h
    · rename_i text htext
      obtain rfl := eq_trim_of_nonBlank htext
      cases h
      refine outer_trim (fun c hc => ?_) hneat.nested
      have hne : ∀ d, d ∉ sql.toList → c ≠ d := fun d hd heq => hd (heq ▸ hc)
      simp [Dialect.isQuote, hne _ hneat.overt.single, hne _ hneat.overt.double, hne _ hchar]
    · cases h

theorem outer_havingItems {items : List HavingItem} (hneat : ∀ item ∈ items, item.Neat s.dialect)
    {parts : List Fragment} (h : items.mapM s.havingItem = .ok parts) :
    List.Forall₂ (Outer s.dialect) (parts.map Fragment.sql)
      (items.map (·.outerWords s.dialect)) := by
  induction mapM_eq_ok_iff.1 h with
  | nil => exact .nil
  | @cons item part items parts hitem hitems ih =>
    have hfirst := outer_havingItem (hneat item List.mem_cons_self) hitem
    exact .cons hfirst
      (ih (fun i hi => hneat i (List.mem_cons_of_mem _ hi)) (mapM_eq_ok_iff.2 hitems))

/-- **The words of a HAVING clause outside of quotes and parentheses are those of its entries, with
`AND` between them.**  So all words that connect its parts are `AND`, unless an expression has an
`OR` of its own outside of parentheses. -/
theorem having_outerWords {items : List HavingItem} {f : Fragment}
    (hneat : ∀ item ∈ items, item.Neat s.dialect) (hsome : items ≠ [])
    (h : s.having items = .ok f) :
    s.dialect.outerWords f.sql =
        "HAVING" :: ["AND"].intercalate (items.map (·.outerWords s.dialect)) ∧
      ("OR" ∈ s.dialect.outerWords f.sql ↔
        ∃ sql, .expression sql ∈ items ∧ "OR" ∈ s.dialect.outerWords sql) := by
  have hwords : s.dialect.outerWords f.sql =
      "HAVING" :: ["AND"].intercalate (items.map (·.outerWords s.dialect)) := by
    rw [having, if_neg (by simpa using hsome)] at h
    obtain ⟨parts, hparts, rfl⟩ := map_eq_ok_iff.1 h
    have hword : Outer s.dialect "HAVING" ["HAVING"] := by
      cases s.dialect <;> exact ⟨rfl, by decide +kernel⟩
    have hsplit : "HAVING " ++ " AND ".intercalate (parts.map Fragment.sql) =
        "HAVING" ++ (" " ++ " AND ".intercalate (parts.map Fragment.sql)) := by
      rw [← String.append_assoc]
      rfl
    rw [hsplit]
    exact (hword.spaced (outer_intercalate (outer_havingItems hneat hparts))).words
  refine ⟨hwords, ?_⟩
  rw [hwords, List.mem_cons, mem_intercalate_iff (by decide)]
  constructor
  · rintro (hor | ⟨words, hmem, hor⟩)
    · exact absurd hor (by decide)
    · obtain ⟨item, hitem, rfl⟩ := List.mem_map.1 hmem
      cases item with
      | expression sql => exact ⟨sql, hitem, hor⟩
      | aggregate function field operator value =>
        have hne : "OR" ≠ function.name := by cases function <;> decide
        exact absurd (List.mem_singleton.1 hor) hne
  · rintro ⟨sql, hmem, hor⟩
    exact .inr ⟨_, List.mem_map_of_mem hmem, hor⟩

/-- An `OR` in parentheses stays where it is. -/
theorem having_outerWords_enclosed :
    (Scope.mk ⟨[("ID", .typed "ID" "INTEGER")]⟩ .mysql).having
        [.expression " (MAX(ID) > 1 OR MIN(ID) < 0) ",
          .aggregate .count none .greater (.integer 2)] =
      .ok ⟨"HAVING (MAX(ID) > 1 OR MIN(ID) < 0) AND COUNT(*) > ?", [.int 2]⟩ ∧
    "OR" ∉ Dialect.mysql.outerWords "HAVING (MAX(ID) > 1 OR MIN(ID) < 0) AND COUNT(*) > ?" := by
  have hclause : (Scope.mk ⟨[("ID", .typed "ID" "INTEGER")]⟩ .mysql).having
        [.expression " (MAX(ID) > 1 OR MIN(ID) < 0) ",
          .aggregate .count none .greater (.integer 2)] =
      .ok ⟨"HAVING (MAX(ID) > 1 OR MIN(ID) < 0) AND COUNT(*) > ?", [.int 2]⟩ :=
    toOption_eq_some_iff.1 (by decide +kernel)
  refine ⟨hclause, fun hor => ?_⟩
  obtain ⟨sql, hmem, hor⟩ := (having_outerWords (by decide +kernel) (by simp) hclause).2.1 hor
  obtain rfl : sql = " (MAX(ID) > 1 OR MIN(ID) < 0) " := by simpa using hmem
  revert hor
  decide +kernel

/-- An expression with an `OR` outside of parentheses takes part of the next entry with it. -/
theorem having_regrouped :
    ¬ ∀ (s : Scope) (items : List HavingItem) (f : Fragment), 2 ≤ items.length →
      (∀ item ∈ items, item.Neat s.dialect) → s.having items = .ok f →
        "OR" ∉ s.dialect.outerWords f.sql := by
  intro h
  refine h (Scope.mk ⟨[("ID", .typed "ID" "INTEGER")]⟩ .db2)
    [.expression "MAX(ID) > 1 OR MIN(ID) < 0", .expression "COUNT(*) > 2"]
    ⟨"HAVING MAX(ID) > 1 OR MIN(ID) < 0 AND COUNT(*) > 2", []⟩ (by decide) (by decide +kernel)
    (toOption_eq_some_iff.1 (by decide +kernel)) ?_
  decide +kernel

end Scope

end BoundQuery
