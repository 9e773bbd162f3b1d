import BoundQuery.Proofs.Clause.Sentinel
import BoundQuery.Proofs.Clause.Tally
import BoundQuery.Proofs.Pipeline.Nesting
import BoundQuery.Proofs.Pipeline.RowCap

/-!
# Groups of conditions

A WHERE clause joins its groups outside of parentheses and the conditions of a group inside of the
parentheses of the group.  Texts that a caller gives stand between them, and so do names in quotes.

* `Condition.Neat` : conditions whose text, if they have one, hides nothing and closes its own
  parentheses;
* `Scope.sealed_condition` : **a neat condition compiles to a sealed text**;
* `Stands` : a word of code between two texts, and `WordAt` : one in a text, with a number of
  parentheses open in front of it;
* `GroupAt` : a group of conditions in a text, outside of parentheses, its connectors inside of its
  own;
* `Scope.whereClause_grouped` : **neat conditions cannot break the groups**: the words outside of
  parentheses are `WHERE` and the connectors of the groups after the first, and the conditions of a
  group are joined one level deep by its own connector.
-/

namespace BoundQuery

open Text

/-- Whether the text of a condition, if it has one, hides nothing and closes its own parentheses. -/
def Condition.Neat : Condition → Prop
  | .subquery _ sql | .expression sql => BoundQuery.Neat sql
  | .test _ _ _ _ | .membership _ _ _ | .range _ _ _ => True

instance Condition.decidableNeat (c : Condition) : Decidable c.Neat :=
  match c with
  | .subquery _ sql | .expression sql => inferInstanceAs (Decidable (BoundQuery.Neat sql))
  | .test _ _ _ _ | .membership _ _ _ | .range _ _ _ => .isTrue trivial

/-- Whether a word between two texts is read as a word, and the texts are read as if they stood
alone. -/
def Stands (front word back : String) : Prop :=
  spoken (front ++ word ++ back).toList =
    spoken front.toList ++ .text word.toList :: spoken back.toList

/-- Whether a word of code stands in a text, right behind a front of it and with a number of
parentheses open. -/
def WordAt (sql front word : String) (depth : Nat) : Prop :=
  ∃ back, sql = front ++ word ++ back ∧ Stands front word back ∧ openParens front = depth

/-- Whether a group of conditions stands in a text, right behind a front of it. -/
structure GroupAt (sql front : String) (connector : Connector) (parts : List String) : Prop where
  /-- The conditions stand in parentheses. -/
  text : ∃ back,
    sql = front ++ ("(" ++ (" " ++ connector.name ++ " ").intercalate parts ++ ")") ++ back
  /-- The group stands outside of all other parentheses. -/
  depth : openParens front = 0
  /-- Between two conditions stands the connector of the group, one level deep. -/
  connectors : ∀ as p q bs, parts = as ++ p :: q :: bs →
    WordAt sql (front ++ "(" ++ (" " ++ connector.name ++ " ").intercalate (as ++ [p]) ++ " ")
      connector.name 1

/-! ### Sealed conditions -/

theorem parens_doubled {q : Char} (hq : q = '\x27' ∨ q = '"') {cs : List Char} (h : '\\' ∉ cs) :
    (Region.quoted q).parens (Dialect.doubled q cs) = [] := by
  induction cs with
  | nil => rfl
  | cons c cs ih =>
    have hb : c ≠ '\\' := fun hb => h (hb ▸ List.mem_cons_self)
    have hfirst : (Region.quoted q).after (if c = q then [q, q] else [c]) = .quoted q ∧
        (Region.quoted q).parens (if c = q then [q, q] else [c]) = [] := by
      split
      · rcases hq with rfl | rfl <;> decide
      · rename_i hc
        exact ⟨by simp [Region.next, hc, hb], by simp [Region.parens, Region.isCode]⟩
    rw [Dialect.doubled, List.flatMap_cons, Region.parens_append, hfirst.1, hfirst.2]
    exact ih fun hc => h (List.mem_cons_of_mem _ hc)

/-- A name between double quotes is sealed. -/
theorem sealed_quote {d : Dialect} (hd : d ≠ .mysql) {name : String} (h : '\\' ∉ name.toList) :
    Sealed (d.quote name) := by
  have hquote : d.quoteChar = '"' := by
    cases d with
    | mysql => exact absurd rfl hd
    | db2 | postgres | sqlite => rfl
  have hafter := (doubled_quoted (.inr rfl) h).1
  have hparens := parens_doubled (.inr rfl) h
  rw [Dialect.quote, hquote]
  constructor
  · rw [String.toList_ofList, List.cons_append]
    change (Region.quoted '"').after (_ ++ _) = _
    rw [Region.after_append, hafter]
    rfl
  · rw [String.toList_ofList, List.cons_append]
    change Nested ((Region.quoted '"').parens (_ ++ _))
    rw [Region.parens_append, hafter, hparens]
    rfl

namespace Scope

variable {s : Scope}

theorem sealed_keyword {word : String} (h : Sealed word) (negated : Bool) :
    Sealed (keyword negated word) := by
  cases negated with
  | false => exact h
  | true => exact Sealed.append (by decide) h

theorem sealed_membership {c : Column} (hc : Sealed (s.quote c.name)) {values : List Json}
    {negated : Bool} {f : Fragment} (h : s.membership c values negated = .ok f) : Sealed f.sql := by
  unfold membership at h
  split at h
  · cases h
  · obtain ⟨bound, -, rfl⟩ := map_eq_ok_iff.1 h
    have hkeyword : Sealed (keyword negated "IN") := sealed_keyword (by decide) negated
    have hmarks : Sealed (", ".intercalate (List.replicate bound.length "?")) := by
      refine Sealed.intercalate (by decide) fun part hpart => ?_
      rw [List.eq_of_mem_replicate hpart]
      exact (by decide)
    have hsplit : s.quote c.name ++ " " ++ keyword negated "IN" ++ " (" ++
          ", ".intercalate (List.replicate bound.length "?") ++ ")" =
        s.quote c.name ++ " " ++ keyword negated "IN" ++ " " ++
          ("(" ++ ", ".intercalate (List.replicate bound.length "?") ++ ")") := by
      rw [show " (" = " " ++ "(" from rfl]
      simp only [String.append_assoc]
    rw [hsplit]
    exact (((hc.append (by decide)).append hkeyword).append (by decide)).append hmarks.enclosed

theorem sealed_test {c : Column} (hc : Sealed (s.quote c.name)) {operator : Operator}
    {value : Json} {values : List Json} {f : Fragment}
    (h : s.test c operator value values = .ok f) : Sealed f.sql := by
  cases operator with
  | equal | notEqual | greater | less | greaterEqual | lessEqual =>
    simp only [test, comparison] at h
    split at h
    · cases h
      exact ((hc.append (by decide)).append (by decide)).append (by decide)
    · cases h
  | like | notLike | contains =>
    simp only [test, pattern] at h
    split at h
    · cases h
      exact ((hc.append (by decide)).append (by decide)).append (by decide)
    · cases h
  | inList | notInList => exact sealed_membership hc h
  | between | notBetween =>
    simp only [test, range] at h
    split at h
    · obtain ⟨bound, -, rfl⟩ := map_eq_ok_iff.1 h
      exact ((hc.append (by decide)).append (by decide)).append (by decide)
    · cases h
  | isNull | isNotNull =>
    cases h
    exact hc.append (by decide)

/-- A column that is found is one of the table. -/
theorem mem_of_column {clause name : String} {c : Column} (h : s.column clause name = .ok c) :
    ∃ e ∈ s.table.columns, e.2 = c := by
  rw [column, mapError_eq_ok_iff, Table.column] at h
  split at h
  · rename_i found hget
    obtain rfl := Except.ok.inj h
    rw [Table.get?, Keyed.get?_eq_find?, Option.map_eq_some_iff] at hget
    obtain ⟨e, he, hcolumn⟩ := hget
    exact ⟨e, List.mem_of_find?_eq_some he, hcolumn⟩
  · cases h

section

variable (hdialect : s.dialect ≠ .mysql)
  (hnames : ∀ e ∈ s.table.columns, '\\' ∉ e.2.name.toList)

include hdialect hnames

theorem sealed_column {clause name : String} {c : Column} (h : s.column clause name = .ok c) :
    Sealed (s.quote c.name) := by
  obtain ⟨e, he, rfl⟩ := mem_of_column h
  exact sealed_quote hdialect (hnames e he)

/-- A condition whose text closes what it opens compiles to a sealed text. -/
theorem sealed_condition {c : Condition} (hc : c.Neat) {f : Fragment}
    (h : s.condition c = .ok f) : Sealed f.sql := by
  unfold condition at h
  split at h
  · cases h
    exact .empty
  cases c with
  | test name operator value values =>
    obtain ⟨column, hcolumn, htest⟩ := bind_eq_ok_iff.1 h
    exact sealed_test (sealed_column hdialect hnames hcolumn) htest
  | membership negated name values =>
    obtain ⟨column, hcolumn, htest⟩ := bind_eq_ok_iff.1 h
    exact sealed_membership (sealed_column hdialect hnames hcolumn) htest
  | range negated name values =>
    obtain ⟨column, hcolumn, htest⟩ := bind_eq_ok_iff.1 h
    rw [range_eq_test] at htest
    exact sealed_test (sealed_column hdialect hnames hcolumn) htest
  | subquery negated sql =>
    simp only [activeCondition] at h
    split at h
    · rename_i text htext
      obtain rfl := eq_trim_of_nonBlank htext
      cases h
      have hkeyword : Sealed (keyword negated "EXISTS" ++ " ") :=
        (sealed_keyword (by decide) negated).append (by decide)
      have hsplit : keyword negated "EXISTS" ++ " (" ++ trim sql ++ ")" =
          keyword negated "EXISTS" ++ " " ++ ("(" ++ trim sql ++ ")") := by
        rw [show " (" = " " ++ "(" from rfl]
        simp only [String.append_assoc]
      rw [Fragment.text, hsplit]
      exact hkeyword.append (Neat.trim hc).sealed
    · cases h
  | expression sql =>
    simp only [activeCondition] at h
    split at h
    · rename_i text htext
      obtain rfl := eq_trim_of_nonBlank htext
      cases h
      exact (Neat.trim hc).sealed
    · cases h

end

end Scope

/-! ### Connectors -/

namespace Connector

/-- A connector between blanks stands apart from what is in front of it. -/
theorem apart (k : Connector) (back : String) : Apart (" " ++ k.name ++ " " ++ back).toList := by
  have hlist : (" " ++ k.name ++ " " ++ back).toList =
      ' ' :: k.name.toList ++ ' ' :: back.toList := by
    simp [String.toList_append]
  rw [hlist]
  constructor
  · intro c hc
    obtain rfl : ' ' = c := Option.some.inj hc
    rfl
  · intro c hc
    cases k with
    | and =>
      obtain rfl : 'A' = c := Option.some.inj hc
      decide
    | or =>
      obtain rfl : 'O' = c := Option.some.inj hc
      decide

/-- A connector between blanks is a word of its own. -/
theorem spoken_eq (k : Connector) (back : String) :
    spoken (" " ++ k.name ++ " " ++ back).toList =
      .text [' '] :: .text k.name.toList :: spoken (" " ++ back).toList := by
  have hlist : (" " ++ k.name ++ " " ++ back).toList =
      ' ' :: (k.name.toList ++ ' ' :: back.toList) := by
    simp [String.toList_append]
  have hword : spoken (k.name.toList ++ ' ' :: back.toList) =
      .text k.name.toList :: spoken (' ' :: back.toList) := by
    cases k with
    | and => exact spoken_cons 'A' _
    | or => exact spoken_cons 'O' _
  rw [hlist, spoken_cons, next_of_isGap rfl, hword, String.toList_append]
  rfl

/-- A connector between blanks leaves a reader as it is. -/
theorem sealed (k : Connector) : Sealed (" " ++ k.name ++ " ") := by cases k <;> decide

theorem wordsAtTop_name (k : Connector) : wordsAtTop 0 [.text k.name.toList] = [k.name] := by
  cases k <;> rfl

end Connector

/-- Behind code, a connector between blanks is read as a word. -/
theorem stands_connector {x : String} (hx : Region.code.after x.toList = .code) (k : Connector)
    (back : String) : Stands (x ++ " ") k.name (" " ++ back) := by
  have hblank : Apart " ".toList := apart_of_gaps (List.forall_mem_singleton.2 rfl)
  have hfront : spoken (x ++ " ").toList = spoken x.toList ++ [.text [' ']] := by
    have hspoken : spoken " ".toList = [.text [' ']] := by
      change spoken [' '] = _
      rw [spoken_cons, next_of_isGap rfl, spoken_nil]
      rfl
    rw [String.toList_append, spoken_append hblank, hx, Region.rest_of_isCode rfl, hspoken]
  have hsplit : x ++ " " ++ k.name ++ (" " ++ back) = x ++ (" " ++ k.name ++ " " ++ back) := by
    simp only [String.append_assoc]
  rw [Stands, hsplit, String.toList_append, spoken_append (k.apart back), hx, hfront,
    Region.rest_of_isCode rfl, k.spoken_eq, List.append_assoc]
  rfl

theorem topWords_empty : topWords "" = [] := by simp [topWords, tokens, wordsAtTop]

/-- A blank has no words. -/
theorem topWords_blank (back : String) : topWords (" " ++ back) = topWords back := by
  have hgap : ∀ c ∈ [' '], isGap c = true := List.forall_mem_singleton.2 rfl
  obtain ⟨ts, hts, hspoken⟩ := exists_quiet_of_gaps hgap back.toList
  rw [topWords_eq, topWords_eq, String.toList_append]
  change wordsAtTop 0 (spoken ([' '] ++ back.toList)) = _
  rw [hspoken, wordsAtTop_append, hts.wordsAtTop_eq, hts.openAfter_eq, List.nil_append]

/-- Behind a sealed text, a connector is a word outside of parentheses. -/
theorem topWords_connector {x : String} (hx : Sealed x) (k : Connector) (back : String) :
    topWords (x ++ " " ++ k.name ++ " " ++ back) = topWords x ++ k.name :: topWords back := by
  have hsplit : x ++ " " ++ k.name ++ " " ++ back = x ++ (" " ++ k.name ++ " " ++ back) := by
    simp only [String.append_assoc]
  have hback : wordsAtTop 0 (.text k.name.toList :: spoken (" " ++ back).toList) =
      k.name :: topWords back := by
    rw [← topWords_blank, topWords_eq (" " ++ back), ← List.singleton_append, wordsAtTop_append,
      k.wordsAtTop_name]
    cases k <;> rfl
  rw [hsplit, topWords_append (k.apart back), hx.after, hx.openParens_eq,
    Region.rest_of_isCode rfl, k.spoken_eq, ← hback]
  rfl

/-- Right behind an open parenthesis. -/
theorem openParens_opened {x y : String} (hx : Sealed x) (hy : Sealed y) :
    openParens (x ++ "(" ++ y) = 1 := by
  have hopen : Region.code.after (x ++ "(").toList = .code := by
    rw [String.toList_append, Region.after_append, hx.after]
    rfl
  have hparens : Region.code.parens (x ++ "(").toList = Region.code.parens x.toList ++ ['('] := by
    rw [String.toList_append, Region.parens_append, hx.after]
    rfl
  rw [openParens_eq_behind, String.toList_append, Region.parens_append, hopen, hparens,
    openBehind_append, openBehind_append, hx.nested.openBehind_eq, hy.nested.openBehind_eq]
  rfl

/-- Sealed conditions make a group behind a sealed text. -/
theorem groupAt_of_sealed {front : String} (hfront : Sealed front) (k : Connector)
    {parts : List String} (hparts : ∀ part ∈ parts, Sealed part) (back : String) :
    GroupAt (front ++ ("(" ++ (" " ++ k.name ++ " ").intercalate parts ++ ")") ++ back) front k
      parts where
  text := ⟨back, rfl⟩
  depth := hfront.openParens_eq
  connectors := by
    rintro as p q bs rfl
    have hbefore : Sealed ((" " ++ k.name ++ " ").intercalate (as ++ [p])) := by
      refine k.sealed.intercalate fun part hpart => hparts part ?_
      rcases List.mem_append.1 hpart with hpart | hpart
      · exact List.mem_append_left _ hpart
      · rw [List.mem_singleton.1 hpart]
        exact List.mem_append_right _ List.mem_cons_self
    have hcode : Region.code.after
        (front ++ "(" ++ (" " ++ k.name ++ " ").intercalate (as ++ [p])).toList = .code := by
      rw [String.toList_append, String.toList_append, Region.after_append, Region.after_append,
        hfront.after]
      exact hbefore.after
    refine ⟨" " ++ ((" " ++ k.name ++ " ").intercalate (q :: bs) ++ ")" ++ back), ?_,
      stands_connector hcode k _, ?_⟩
    · have hjoin := String.intercalate_append_of_ne_nil (s := " " ++ k.name ++ " ")
        (l := as ++ [p]) (m := q :: bs) (by simp) (by simp)
      rw [List.append_assoc, List.singleton_append] at hjoin
      rw [hjoin]
      simp only [String.append_assoc]
    · rw [String.append_assoc]
      exact openParens_opened hfront (hbefore.append (by decide))

/-! ### Clauses -/

/-- The word that opens the clause. -/
theorem topWords_where (back : String) :
    topWords ("WHERE " ++ back) = "WHERE" :: topWords back := by
  have hlist : ("WHERE " ++ back).toList = "WHERE".toList ++ ' ' :: back.toList := by
    rw [String.toList_append]
    rfl
  have hword : spoken ("WHERE".toList ++ ' ' :: back.toList) =
      .text "WHERE".toList :: spoken (' ' :: back.toList) := spoken_cons 'W' _
  rw [topWords_eq, hlist, hword, ← topWords_blank, topWords_eq, String.toList_append]
  rfl

namespace Scope

variable {s : Scope}

/-- The groups behind the first one, each behind its connector. -/
def trailing : List (Connector × Fragment) → String
  | [] => ""
  | (k, f) :: rest => " " ++ k.name ++ " " ++ f.sql ++ trailing rest

theorem intercalate_attached (x : String) (gs : List (Connector × Fragment)) :
    " ".intercalate (x :: attached gs) = x ++ trailing gs := by
  induction gs generalizing x with
  | nil => simp [attached, trailing]
  | cons e gs ih =>
    have hrest := ih (e.1.name ++ " " ++ e.2.sql)
    change " ".intercalate (x :: (e.1.name ++ " " ++ e.2.sql) :: attached gs) = _
    rw [String.intercalate_cons_cons, hrest, trailing]
    simp only [String.append_assoc]

theorem sql_joinGroups (e : Connector × Fragment) (gs : List (Connector × Fragment)) :
    (joinGroups (e :: gs)).sql = "WHERE " ++ e.2.sql ++ trailing gs := by
  rw [joinGroups, intercalate_attached, String.append_assoc]

theorem trailing_append (as bs : List (Connector × Fragment)) :
    trailing (as ++ bs) = trailing as ++ trailing bs := by
  induction as with
  | nil => simp [trailing]
  | cons e as ih =>
    rw [List.cons_append, trailing, trailing, ih]
    simp only [String.append_assoc]

/-- Groups whose conditions are sealed. -/
def Enclosed (gs : List (Connector × Fragment)) : Prop :=
  ∀ e ∈ gs, ∃ body, Sealed body ∧ e.2.sql = "(" ++ body ++ ")"

theorem sealed_trailing {gs : List (Connector × Fragment)} (h : Enclosed gs) :
    Sealed (trailing gs) := by
  induction gs with
  | nil => exact .empty
  | cons e gs ih =>
    obtain ⟨body, hbody, hsql⟩ := h e List.mem_cons_self
    have hfirst := e.1.sealed.append hbody.enclosed
    rw [trailing, hsql]
    exact hfirst.append (ih fun d hd => h d (List.mem_cons_of_mem _ hd))

/-- The words of the groups behind the first one are their connectors. -/
theorem topWords_trailing {x : String} (hx : Sealed x) {gs : List (Connector × Fragment)}
    (h : Enclosed gs) : topWords (x ++ trailing gs) = topWords x ++ gs.map (·.1.name) := by
  induction gs generalizing x with
  | nil => simp [trailing]
  | cons e gs ih =>
    obtain ⟨body, hbody, hsql⟩ := h e List.mem_cons_self
    have hnext : Sealed (x ++ " " ++ e.1.name ++ " " ++ ("(" ++ body ++ ")")) := by
      have happend := (hx.append e.1.sealed).append hbody.enclosed
      simpa only [String.append_assoc] using happend
    have hsplit : x ++ trailing (e :: gs) =
        x ++ " " ++ e.1.name ++ " " ++ ("(" ++ body ++ ")") ++ trailing gs := by
      rw [trailing, hsql]
      simp only [String.append_assoc]
    rw [hsplit, ih hnext fun d hd => h d (List.mem_cons_of_mem _ hd), topWords_connector hx,
      hbody.topWords_enclosed, List.append_assoc]
    rfl

/-- The words of a clause. -/
theorem topWords_joinGroups {e : Connector × Fragment} {gs : List (Connector × Fragment)}
    (h : Enclosed (e :: gs)) :
    Sealed ("WHERE " ++ e.2.sql) ∧
      topWords ("WHERE " ++ e.2.sql ++ trailing gs) = "WHERE" :: gs.map (·.1.name) := by
  obtain ⟨body, hbody, hsql⟩ := h e List.mem_cons_self
  have hfirst : Sealed ("WHERE " ++ e.2.sql) := by
    rw [hsql]
    exact Sealed.append (by decide) hbody.enclosed
  refine ⟨hfirst, ?_⟩
  rw [topWords_trailing hfirst fun d hd => h d (List.mem_cons_of_mem _ hd), hsql, topWords_where,
    hbody.topWords_enclosed]
  rfl

/-- What stands in front of a group of a clause. -/
theorem exists_front {as bs : List (Connector × Fragment)} {e : Connector × Fragment}
    (h : Enclosed (as ++ e :: bs)) :
    ∃ front, Sealed front ∧ (joinGroups (as ++ e :: bs)).sql = front ++ e.2.sql ++ trailing bs ∧
      topWords front = "WHERE" :: (as ++ [e]).tail.map (·.1.name) := by
  cases as with
  | nil =>
    refine ⟨"WHERE ", by decide, ?_, ?_⟩
    · rw [List.nil_append, sql_joinGroups]
    · have hwords := topWords_where ""
      rwa [topWords_empty] at hwords
  | cons a as =>
    have has : Enclosed (a :: as) := fun d hd => h d (List.mem_append_left _ hd)
    obtain ⟨hfirst, hwords⟩ := topWords_joinGroups has
    have hfront := hfirst.append (sealed_trailing fun d hd => has d (List.mem_cons_of_mem _ hd))
    refine ⟨"WHERE " ++ a.2.sql ++ trailing as ++ (" " ++ e.1.name ++ " "),
      hfront.append e.1.sealed, ?_, ?_⟩
    · rw [List.cons_append, sql_joinGroups, trailing_append, trailing]
      simp only [String.append_assoc]
    · have hsplit : "WHERE " ++ a.2.sql ++ trailing as ++ (" " ++ e.1.name ++ " ") =
          "WHERE " ++ a.2.sql ++ trailing as ++ " " ++ e.1.name ++ " " ++ "" := by
        simp only [String.append_assoc, String.append_empty]
      rw [hsplit, topWords_connector hfront, hwords, topWords_empty]
      simp

/-- A group whose conditions are sealed. -/
theorem exists_parts_of_fullGroup {g : Group} {e : Connector × Fragment}
    (h : s.fullGroup g = .ok e) :
    ∃ parts, g.conditions.mapM s.condition = .ok parts ∧ e.1 = g.connector ∧
      e.2.sql =
        "(" ++ (" " ++ g.connector.name ++ " ").intercalate (parts.map Fragment.sql) ++ ")" := by
  obtain ⟨parts, hparts, rfl⟩ := map_eq_ok_iff.1 h
  exact ⟨parts, hparts, rfl, rfl⟩

theorem map_connector_of_fullGroup {groups : List Group} {gs : List (Connector × Fragment)}
    (h : groups.mapM s.fullGroup = .ok gs) :
    gs.map (·.1.name) = groups.map (·.connector.name) := by
  induction mapM_eq_ok_iff.1 h with
  | nil => rfl
  | cons hfirst hrest ih =>
    obtain ⟨parts, -, hconnector, -⟩ := exists_parts_of_fullGroup hfirst
    rw [List.map_cons, List.map_cons, hconnector, ih (mapM_eq_ok_iff.2 hrest)]

/-- The conditions that are left are among all conditions. -/
theorem mem_of_mem_withoutSentinels {groups : List Group} {g : Group} {c : Condition}
    (hg : g ∈ withoutSentinels groups) (hc : c ∈ g.conditions) :
    ∃ g' ∈ groups, c ∈ g'.conditions := by
  obtain ⟨g', hg', rfl⟩ := List.mem_map.1 (List.mem_of_mem_filter hg)
  exact ⟨g', hg', List.mem_of_mem_filter hc⟩

/-- **Neat conditions cannot break the groups.**  The words of a WHERE clause outside of quotes,
comments and parentheses are `WHERE` and the connectors of the groups that are left after the first
of them, in order.  The conditions of every group that is left stand in parentheses of their own,
and between two of them stands the connector of the group, one level deep. -/
theorem whereClause_grouped {groups : List Group} {f : Fragment} (hdialect : s.dialect ≠ .mysql)
    (hnames : ∀ e ∈ s.table.columns, '\\' ∉ e.2.name.toList)
    (hneat : ∀ g ∈ groups, ∀ c ∈ g.conditions, c.Neat) (h : s.whereClause groups = .ok f)
    (hsome : f.isEmpty = false) :
    topWords f.sql = "WHERE" :: (withoutSentinels groups).tail.map (·.connector.name) ∧
      ∀ as g bs, withoutSentinels groups = as ++ g :: bs → ∃ front parts,
        g.conditions.mapM s.condition = .ok parts ∧
          topWords front = "WHERE" :: (as ++ [g]).tail.map (·.connector.name) ∧
            GroupAt f.sql front g.connector (parts.map Fragment.sql) := by
  rw [whereClause_eq] at h
  obtain ⟨gs, hgs, rfl⟩ := map_eq_ok_iff.1 h
  have hsealed : ∀ g ∈ withoutSentinels groups, ∀ parts, g.conditions.mapM s.condition = .ok parts →
      ∀ part ∈ parts.map Fragment.sql, Sealed part := by
    intro g hg parts hparts part hpart
    obtain ⟨p, hp, rfl⟩ := List.mem_map.1 hpart
    obtain ⟨c, hc, hok⟩ := exists_of_mem_answers hparts hp
    obtain ⟨g', hg', hc'⟩ := mem_of_mem_withoutSentinels hg hc
    exact sealed_condition hdialect hnames (hneat g' hg' c hc') hok
  have henclosed : Enclosed gs := by
    intro e he
    obtain ⟨g, hg, hok⟩ := exists_of_mem_answers hgs he
    obtain ⟨parts, hparts, -, hsql⟩ := exists_parts_of_fullGroup hok
    exact ⟨_, g.connector.sealed.intercalate (hsealed g hg parts hparts), hsql⟩
  constructor
  · have hnames := map_connector_of_fullGroup hgs
    cases gs with
    | nil => cases hsome
    | cons e gs =>
      rw [sql_joinGroups, (topWords_joinGroups henclosed).2, List.map_tail, ← hnames]
      rfl
  · intro as g bs hsplit
    rw [hsplit, mapM_append_eq_ok_iff] at hgs
    obtain ⟨as', rest, has, hrest, rfl⟩ := hgs
    obtain ⟨e, bs', hok, hbs, rfl⟩ := mapM_cons_eq_ok_iff.1 hrest
    obtain ⟨parts, hparts, hconnector, hsql⟩ := exists_parts_of_fullGroup hok
    obtain ⟨front, hfront, hall, hwords⟩ := exists_front henclosed
    have hnames : (as' ++ [e]).map (·.1.name) = (as ++ [g]).map (·.connector.name) := by
      rw [List.map_append, List.map_append, map_connector_of_fullGroup has, List.map_singleton,
        List.map_singleton, hconnector]
    have hg : g ∈ withoutSentinels groups := by simp [hsplit]
    refine ⟨front, parts, hparts, ?_, ?_⟩
    · rw [hwords, List.map_tail, List.map_tail, hnames]
    · rw [hall, hsql]
      exact groupAt_of_sealed hfront g.connector (hsealed g hg parts hparts) _

/-- A group of sentinels in front, and a name with a quote and a parenthesis in it. -/
theorem whereClause_grouped_quoted :
    (Scope.mk ⟨[("A", .untyped "A\"(")]⟩ .db2).whereClause
        [⟨.or, [.expression " * "]⟩,
          ⟨.or, [.test "A" .isNull .null [], .expression "X = 1 AND (Y)"]⟩,
          ⟨.and, [.subquery true "SELECT 1", .membership false "A" [.integer 1, .integer 2]]⟩] =
      .ok ⟨"WHERE (\"A\"\"(\" IS NULL OR (X = 1 AND (Y))) AND " ++
        "(NOT EXISTS (SELECT 1) AND \"A\"\"(\" IN (?, ?))", [.text "1", .text "2"]⟩ ∧
    topWords ("WHERE (\"A\"\"(\" IS NULL OR (X = 1 AND (Y))) AND " ++
      "(NOT EXISTS (SELECT 1) AND \"A\"\"(\" IN (?, ?))") = ["WHERE", "AND"] := by
  have hclause : (Scope.mk ⟨[("A", .untyped "A\"(")]⟩ .db2).whereClause
        [⟨.or, [.expression " * "]⟩,
          ⟨.or, [.test "A" .isNull .null [], .expression "X = 1 AND (Y)"]⟩,
          ⟨.and, [.subquery true "SELECT 1", .membership false "A" [.integer 1, .integer 2]]⟩] =
      .ok ⟨"WHERE (\"A\"\"(\" IS NULL OR (X = 1 AND (Y))) AND " ++
        "(NOT EXISTS (SELECT 1) AND \"A\"\"(\" IN (?, ?))", [.text "1", .text "2"]⟩ :=
    toOption_eq_some_iff.1 (by decide +kernel)
  exact ⟨hclause, (whereClause_grouped (by decide) (by decide) (by decide +kernel) hclause
    (by decide +kernel)).1⟩

end Scope

end BoundQuery
