import BoundQuery.Clause.Query
import BoundQuery.Proofs.Clause.Fragment
import BoundQuery.Proofs.Except
import BoundQuery.Proofs.Pipeline.Ends

/-!
# The placeholders of a compiled query

Clauses are put together as text, and the placeholders of the whole are found by reading it again.
What a name between quotes does to the reader decides whether the two agree: with a quote or a `?`
in it nothing happens, since quotes are written twice, but a backslash takes the closing quote away,
and between backquotes the reader sees everything.

* `Dialect.Inert` : a name that hides nothing and shows nothing when it is quoted;
* `QueryModel.Plain` : a model of columns, values and inert aliases only;
* `balanced_quote` : a quoted inert name is balanced, and so is every clause that is put together
  from such names and from tests;
* `Scope.query_tallied` : **a plain model over inert names compiles to one placeholder per value**,
  and each clause and each condition carries its own.
-/

namespace BoundQuery

open Text

/-! ### Names and models -/

/-- Whether a quoted name leaves the text around it as it is. -/
def Dialect.Inert (d : Dialect) (name : String) : Prop :=
  match d with
  | .mysql => name.toList.all isWordChar = true
  | _ => '\\' ∉ name.toList

instance (d : Dialect) (name : String) : Decidable (d.Inert name) :=
  match d with
  | .mysql => inferInstanceAs (Decidable (name.toList.all isWordChar = true))
  | .db2 | .postgres | .sqlite => inferInstanceAs (Decidable ('\\' ∉ name.toList))

/-- Whether a SELECT entry is a column or an aggregate, with an inert alias if it has one. -/
def SelectItem.Plain (d : Dialect) : SelectItem → Prop
  | .column _ label => ∀ a ∈ Scope.filled label, d.Inert a
  | .aggregate _ _ _ label => ∀ a ∈ Scope.filled label, d.Inert a
  | .custom _ _ => False

/-- Whether a condition tests a column. -/
def Condition.Plain : Condition → Prop
  | .test _ _ _ _ | .membership _ _ _ | .range _ _ _ => True
  | .subquery _ _ | .expression _ => False

/-- Whether a GROUP BY entry is a column. -/
def GroupItem.Plain : GroupItem → Prop
  | .column _ => True
  | .expression _ => False

/-- Whether a condition on groups of rows tests an aggregate. -/
def HavingItem.Plain : HavingItem → Prop
  | .aggregate _ _ _ _ => True
  | .expression _ => False

/-- Whether an ORDER BY entry is a column. -/
def OrderItem.Plain : OrderItem → Prop
  | .column _ _ => True
  | .expression _ _ => False

/-- Whether a model has no text of its own but inert aliases. -/
structure QueryModel.Plain (d : Dialect) (m : QueryModel) : Prop where
  /-- The SELECT list. -/
  select : ∀ item ∈ m.select, item.Plain d
  /-- The conditions of all groups. -/
  filters : ∀ g ∈ m.filters, ∀ c ∈ g.conditions, c.Plain
  /-- The GROUP BY list. -/
  groupBy : ∀ item ∈ m.groupBy, item.Plain
  /-- The conditions on groups of rows. -/
  having : ∀ item ∈ m.having, item.Plain
  /-- The ORDER BY list. -/
  orderBy : ∀ item ∈ m.orderBy, item.Plain

/-- Whether a table has inert names only. -/
def Table.Inert (d : Dialect) (t : Table) : Prop :=
  ∀ e ∈ t.columns, d.Inert e.1 ∧ d.Inert e.2.name

instance (d : Dialect) (t : Table) : Decidable (t.Inert d) := List.decidableBAll _ t.columns

open Fragment

/-! ### Names -/

/-- Quotes written twice leave the reader between quotes. -/
theorem doubled_quoted {q : Char} (hq : q = '\x27' ∨ q = '"') {cs : List Char} (h : '\\' ∉ cs) :
    (Region.quoted q).after (Dialect.doubled q cs) = .quoted q ∧
      (Region.quoted q).count (Dialect.doubled q cs) = 0 := by
  induction cs with
  | nil => exact ⟨rfl, rfl⟩
  | cons c cs ih =>
    obtain ⟨hafter, hcount⟩ := ih fun hc => h (List.mem_cons_of_mem _ hc)
    have hhead : (Region.quoted q).after (if c = q then [q, q] else [c]) = .quoted q ∧
        (Region.quoted q).count (if c = q then [q, q] else [c]) = 0 := by
      split
      · rcases hq with rfl | rfl <;> decide
      · rename_i hc
        have hb : c ≠ '\\' := fun hb => h (hb ▸ List.mem_cons_self)
        exact ⟨by simp [Region.next, hc, hb], by simp [Region.count, Region.marks, Region.isCode]⟩
    rw [Dialect.doubled, List.flatMap_cons, Region.after_append, Region.count_append, hhead.1,
      hhead.2]
    exact ⟨hafter, by rw [Nat.zero_add]; exact hcount⟩

theorem mem_doubled {q c : Char} {cs : List Char} (h : c ∈ Dialect.doubled q cs) :
    c = q ∨ c ∈ cs := by
  obtain ⟨a, ha, hc⟩ := List.mem_flatMap.1 h
  by_cases haq : a = q
  · exact .inl (by simpa [haq] using hc)
  · rw [if_neg haq, List.mem_singleton] at hc
    exact .inr (hc ▸ ha)

/-- A text of calm characters without a `?`. -/
theorem balanced_calm {sql : String}
    (h : ∀ c ∈ sql.toList, Region.isCalm c = true ∧ c ≠ '?') : (text sql).Balanced where
  after := by
    by_cases hnil : sql.toList = []
    · simp [text, hnil]
    · exact Region.after_calm rfl hnil fun c hc => (h c hc).1
  count := Region.count_eq_zero _ fun hc => (h _ hc).2 rfl

theorem balanced_quote {d : Dialect} {name : String} (h : d.Inert name) :
    (text (d.quote name)).Balanced := by
  -- The reader is between the quotes from the first one to the last.
  have hquoted : ∀ cs : List Char, '\\' ∉ cs →
      (text (String.ofList ('"' :: Dialect.doubled '"' cs ++ ['"']))).Balanced := by
    intro cs hcs
    obtain ⟨hafter, hcount⟩ := doubled_quoted (.inr rfl) hcs
    constructor
    · change Region.code.after (String.ofList _).toList = _
      rw [String.toList_ofList, List.cons_append]
      change (Region.quoted '"').after (_ ++ _) = _
      rw [Region.after_append, hafter]
      rfl
    · change Region.code.count (String.ofList _).toList = 0
      rw [String.toList_ofList, List.cons_append]
      change (Region.quoted '"').count (_ ++ _) = 0
      rw [Region.count_append, hafter, hcount]
      rfl
  cases d with
  | mysql =>
    -- Backquotes are no quotes to the reader, and neither is anything between them.
    refine balanced_calm fun c hc => ?_
    rw [Dialect.quote, String.toList_ofList, List.cons_append, List.mem_cons, List.mem_append,
      List.mem_singleton] at hc
    have hquote : Region.isCalm (Dialect.quoteChar .mysql) = true ∧
        Dialect.quoteChar .mysql ≠ '?' := by decide
    rcases hc with rfl | hc | rfl
    · exact hquote
    · rcases mem_doubled hc with rfl | hc
      · exact hquote
      · exact isCalm_of_isWordChar (List.all_eq_true.1 h c hc)
    · exact hquote
  | db2 | postgres | sqlite => exact hquoted _ h

theorem Dialect.Inert.append {d : Dialect} {a b : String} (ha : d.Inert a) (hb : d.Inert b) :
    d.Inert (a ++ b) := by
  cases d with
  | mysql => simpa [Dialect.Inert, List.all_append] using And.intro ha hb
  | db2 | postgres | sqlite => simpa [Dialect.Inert, List.mem_append] using And.intro ha hb

theorem balanced_name (function : Aggregate) : (text function.name).Balanced := by
  cases function <;> exact ⟨rfl, rfl⟩

theorem balanced_decimalCast {d : Dialect} {expression : String}
    (h : (text expression).Balanced) : (text (d.decimalCast expression)).Balanced := by
  cases d with
  | db2 =>
    exact (Balanced.text_append ⟨rfl, rfl⟩ h).text_append ⟨rfl, rfl⟩
  | postgres | mysql | sqlite =>
    exact (Balanced.text_append ⟨rfl, rfl⟩ h).text_append ⟨rfl, rfl⟩

theorem balanced_rowCap (d : Dialect) (limit : Nat) : (text (d.rowCap limit)).Balanced :=
  balanced_calm fun _ hc => isCalm_of (p := fun c => c.isAlphanum || c == ' ') (by decide)
    (rowCap_chars d limit hc)

namespace Scope

variable {s : Scope}

theorem balanced_quoted {c : Column} (h : s.dialect.Inert c.name) :
    (text (s.quote c.name)).Balanced := balanced_quote h

/-- What a table of inert names has under a name is inert, and so is the name. -/
theorem inert_of_column (hs : s.table.Inert s.dialect) {clause name : String} {c : Column}
    (h : s.column clause name = .ok c) : s.dialect.Inert name ∧ s.dialect.Inert c.name := by
  rw [column, mapError_eq_ok_iff, Table.column] at h
  split at h
  · rename_i c' hget
    obtain rfl := Except.ok.inj h
    rw [Table.get?, Keyed.get?_eq_find?, Option.map_eq_some_iff] at hget
    obtain ⟨e, he, rfl⟩ := hget
    obtain rfl : e.1 = name := by simpa using List.find?_some he
    exact hs e (List.mem_of_find?_eq_some he)
  · cases h

/-- The texts of the entries of a list, with commas between them. -/
theorem balanced_list {α : Type} {items : List α} {f : α → Except ClauseFault String}
    (hitems : ∀ item ∈ items, ∀ sql, f item = .ok sql → (text sql).Balanced) {parts : List String}
    (hparts : items.mapM f = .ok parts) : (text (", ".intercalate parts)).Balanced := by
  refine balanced_intercalate ⟨rfl, rfl⟩ fun part hpart => ?_
  obtain ⟨item, hitem, hok⟩ := exists_of_mem_answers hparts hpart
  exact hitems item hitem part hok

/-- A clause that is left out, or a word and the texts of the entries behind it. -/
theorem balanced_clause {α : Type} {items : List α} {f : α → Except ClauseFault String}
    {word : String} (hword : (text word).Balanced)
    (hitems : ∀ item ∈ items, ∀ sql, f item = .ok sql → (text sql).Balanced) {sql : String}
    (h : (if items.isEmpty then Except.ok "" else
      (items.mapM f).map fun parts => word ++ ", ".intercalate parts) = .ok sql) :
    (text sql).Balanced := by
  split at h
  · cases h
    exact balanced_empty
  · obtain ⟨parts, hparts, rfl⟩ := map_eq_ok_iff.1 h
    exact hword.text_append (balanced_list hitems hparts)

/-! ### SELECT -/

theorem balanced_columnRef (hs : s.table.Inert s.dialect) {clause name sql : String}
    (h : s.columnRef clause name = .ok sql) : (text sql).Balanced := by
  unfold columnRef at h
  split at h
  · cases h
    exact ⟨rfl, rfl⟩
  · obtain ⟨c, hc, rfl⟩ := map_eq_ok_iff.1 h
    exact balanced_quoted (inert_of_column hs hc).2

theorem balanced_tableRef {name sql : String}
    (hname : ∀ part ∈ tableParts name, s.dialect.Inert part) (h : s.tableRef name = .ok sql) :
    (text sql).Balanced := by
  unfold tableRef at h
  split at h
  · cases h
  · cases h
    have hparts : ∀ part ∈ (tableParts name).map s.quote, (text part).Balanced := by
      intro part hpart
      obtain ⟨n, hn, rfl⟩ := List.mem_map.1 hpart
      exact balanced_quote (hname n hn)
    exact balanced_intercalate ⟨rfl, rfl⟩ hparts

theorem balanced_aliased {expression : String} {label : Option String}
    (hlabel : ∀ a ∈ filled label, s.dialect.Inert a) (h : (text expression).Balanced) :
    (text (s.aliased expression label)).Balanced := by
  unfold aliased
  split
  · rename_i a ha
    exact (h.text_append ⟨rfl, rfl⟩).text_append (balanced_quote (hlabel a ha))
  · exact h

/-- The argument of an aggregate is balanced, and a column that it names has an inert name. -/
theorem balanced_aggregateArgument (hs : s.table.Inert s.dialect) {function : Aggregate}
    {field : Option String} {distinct : Bool} {sql : String}
    (h : s.aggregateArgument function field distinct = .ok sql) :
    (text sql).Balanced ∧ ∀ f ∈ field, f = "*" ∨ s.dialect.Inert f := by
  have hstar : (text "*").Balanced := ⟨rfl, rfl⟩
  have hdistinct : (text (if distinct then "DISTINCT " else "")).Balanced := by
    cases distinct <;> exact ⟨rfl, rfl⟩
  dsimp only [aggregateArgument] at h
  -- The start is the same in all cases, so it is kept out of the case split.
  generalize (if distinct = true then "DISTINCT " else "") = start at h hdistinct
  split at h
  · cases h
    exact ⟨hstar, by rintro f ⟨⟩⟩
  · rename_i f
    split at h
    · rename_i hf
      cases h
      exact ⟨hstar, fun g hg => .inl ((Option.some.inj hg).symm.trans hf)⟩
    · rename_i hf
      obtain ⟨ref, href, rfl⟩ := map_eq_ok_iff.1 h
      refine ⟨hdistinct.text_append (balanced_columnRef hs href), fun g hg => .inr ?_⟩
      obtain rfl := Option.some.inj hg
      rw [columnRef, if_neg hf] at href
      obtain ⟨c, hc, -⟩ := map_eq_ok_iff.1 href
      exact (inert_of_column hs hc).1
  · cases h
  · rename_i f _
    split at h
    · cases h
    · rename_i c hc
      have hname := balanced_quoted (inert_of_column hs hc).2
      refine ⟨?_, fun g hg => .inr (Option.some.inj hg ▸ (inert_of_column hs hc).1)⟩
      split at h
      · split at h
        · cases h
          exact hdistinct.text_append (balanced_decimalCast hname)
        · cases h
      · cases h
        exact hdistinct.text_append hname

theorem inert_aggregateAlias {d : Dialect} (function : Aggregate) {field : Option String}
    (h : ∀ f ∈ field, f = "*" ∨ d.Inert f) : d.Inert (aggregateAlias function field) := by
  have hstart : d.Inert (lower function.name ++ "_") := by
    cases d <;> cases function <;> decide
  have hall : d.Inert "all" := by cases d <;> decide
  unfold aggregateAlias
  refine hstart.append ?_
  split
  · rename_i f
    split
    · exact hall
    · exact (h f rfl).resolve_left ‹_›
  · exact hall

theorem balanced_selectItem (hs : s.table.Inert s.dialect) {item : SelectItem}
    (hitem : item.Plain s.dialect) {sql : String} (h : s.selectItem item = .ok sql) :
    (text sql).Balanced := by
  cases item with
  | column name label =>
    obtain ⟨ref, href, rfl⟩ := map_eq_ok_iff.1 h
    have href := balanced_columnRef hs href
    split
    · exact href
    · exact balanced_aliased hitem href
  | aggregate function field distinct label =>
    obtain ⟨argument, hargument, rfl⟩ := map_eq_ok_iff.1 h
    obtain ⟨hbalanced, hfield⟩ := balanced_aggregateArgument hs hargument
    have hlabel :
        s.dialect.Inert ((filled label).getD (aggregateAlias function (filled field))) := by
      cases hl : filled label with
      | none => exact inert_aggregateAlias function hfield
      | some a => exact hitem a hl
    exact ((((balanced_name function).text_append ⟨rfl, rfl⟩).text_append
      hbalanced).text_append ⟨rfl, rfl⟩).text_append (balanced_quote hlabel)
  | custom expression label => exact hitem.elim

theorem balanced_select (hs : s.table.Inert s.dialect) {items : List SelectItem}
    (hitems : ∀ item ∈ items, item.Plain s.dialect) {sql : String} (h : s.select items = .ok sql) :
    (text sql).Balanced := by
  unfold select at h
  split at h
  · cases h
    exact ⟨rfl, rfl⟩
  · obtain ⟨parts, hparts, rfl⟩ := map_eq_ok_iff.1 h
    exact balanced_list (fun item hitem _ => balanced_selectItem hs (hitems item hitem)) hparts

/-! ### Conditions -/

theorem balanced_keyword {word : String} (h : (text word).Balanced) (negated : Bool) :
    (text (keyword negated word)).Balanced := by
  cases negated with
  | false => exact h
  | true => exact Balanced.text_append ⟨rfl, rfl⟩ h

/-- A mark at the end of a test stands for its value. -/
theorem balanced_mark (v : BindValue) : Balanced ⟨" ?", [v]⟩ where
  after := (by decide : Region.code.after " ?".toList = .code)
  count := (by decide : Region.code.count " ?".toList = 1)

theorem balanced_membership {c : Column} (hc : s.dialect.Inert c.name) {values : List Json}
    {negated : Bool} {f : Fragment} (h : s.membership c values negated = .ok f) : f.Balanced := by
  unfold membership at h
  split at h
  · cases h
  · obtain ⟨bound, -, rfl⟩ := map_eq_ok_iff.1 h
    have hkeyword : (text (keyword negated "IN")).Balanced := balanced_keyword ⟨rfl, rfl⟩ negated
    -- The marks and their values are one fragment for each value, with commas between them.
    have hmarks : Balanced ⟨", ".intercalate (List.replicate bound.length "?"), bound⟩ := by
      have hjoined : Fragment.mk (", ".intercalate (List.replicate bound.length "?")) bound =
          joined ", " (bound.map fun v => ⟨"?", [v]⟩) := by
        simp [joined, allValues, Function.comp_def, List.flatMap_map]
      rw [hjoined]
      refine .joined ⟨rfl, rfl⟩ fun f hf => ?_
      obtain ⟨v, -, rfl⟩ := List.mem_map.1 hf
      exact ⟨(by decide : Region.code.after "?".toList = .code),
        (by decide : Region.code.count "?".toList = 1)⟩
    have hopen : (text (s.quote c.name ++ " " ++ keyword negated "IN" ++ " (")).Balanced :=
      (((balanced_quoted hc).text_append ⟨rfl, rfl⟩).text_append hkeyword).text_append ⟨rfl, rfl⟩
    exact (hopen.text_append hmarks).append_text ⟨rfl, rfl⟩

theorem balanced_range {c : Column} (hc : s.dialect.Inert c.name) {values : List Json}
    {negated : Bool} {f : Fragment} (h : s.range c values negated = .ok f) : f.Balanced := by
  unfold range at h
  split at h
  · rename_i htwo
    obtain ⟨bound, hbound, rfl⟩ := map_eq_ok_iff.1 h
    have hlength : bound.length = 2 := by
      rw [castAll, mapError_eq_ok_iff, mapM_eq_ok_iff] at hbound
      exact hbound.length_eq.symm.trans htwo
    have hkeyword : (text (keyword negated "BETWEEN")).Balanced :=
      balanced_keyword ⟨rfl, rfl⟩ negated
    have hmarks : Balanced ⟨" ? AND ?", bound⟩ :=
      ⟨(by decide : Region.code.after " ? AND ?".toList = .code),
        (by decide : Region.code.count " ? AND ?".toList = 2).trans hlength.symm⟩
    exact (((balanced_quoted hc).text_append ⟨rfl, rfl⟩).text_append hkeyword).text_append hmarks
  · cases h

theorem balanced_comparison {c : Column} (hc : s.dialect.Inert c.name) {symbol : String}
    (hsymbol : (text symbol).Balanced) {value : Json} {f : Fragment}
    (h : s.comparison c symbol value = .ok f) : f.Balanced := by
  unfold comparison at h
  split at h
  · cases h
    exact (((balanced_quoted hc).text_append ⟨rfl, rfl⟩).text_append
      hsymbol).text_append (balanced_mark _)
  · cases h

theorem balanced_pattern {c : Column} (hc : s.dialect.Inert c.name) {negated : Bool}
    {pattern : String} {f : Fragment} (h : s.pattern c negated pattern = .ok f) : f.Balanced := by
  unfold Scope.pattern at h
  split at h
  · cases h
    have hkeyword : (text (keyword negated "LIKE")).Balanced :=
      balanced_keyword ⟨rfl, rfl⟩ negated
    exact (((balanced_quoted hc).text_append ⟨rfl, rfl⟩).text_append
      hkeyword).text_append (balanced_mark _)
  · cases h

theorem balanced_test {c : Column} (hc : s.dialect.Inert c.name) {operator : Operator}
    {value : Json} {values : List Json} {f : Fragment}
    (h : s.test c operator value values = .ok f) : f.Balanced := by
  cases operator with
  | equal | notEqual | greater | less | greaterEqual | lessEqual =>
    exact balanced_comparison hc ⟨rfl, rfl⟩ h
  | like | notLike | contains => exact balanced_pattern hc h
  | inList | notInList => exact balanced_membership hc h
  | between | notBetween => exact balanced_range hc h
  | isNull | isNotNull =>
    cases h
    exact (balanced_quoted hc).text_append ⟨rfl, rfl⟩

theorem balanced_condition (hs : s.table.Inert s.dialect) {c : Condition} (hc : c.Plain)
    {f : Fragment} (h : s.condition c = .ok f) : f.Balanced := by
  unfold condition at h
  split at h
  · cases h
    exact balanced_empty
  · cases c with
    | test name operator value values =>
      obtain ⟨column, hcolumn, htest⟩ := bind_eq_ok_iff.1 h
      exact balanced_test (inert_of_column hs hcolumn).2 htest
    | membership negated name values =>
      obtain ⟨column, hcolumn, htest⟩ := bind_eq_ok_iff.1 h
      exact balanced_membership (inert_of_column hs hcolumn).2 htest
    | range negated name values =>
      obtain ⟨column, hcolumn, htest⟩ := bind_eq_ok_iff.1 h
      exact balanced_range (inert_of_column hs hcolumn).2 htest
    | subquery negated sql => exact hc.elim
    | expression sql => exact hc.elim

theorem groupBody_eq (connector : Connector) (fs : List Fragment) :
    groupBody connector fs =
      text "(" ++ (joined (" " ++ connector.name ++ " ") fs ++ text ")") := by
  change Fragment.mk _ _ = Fragment.mk _ _
  simp [joined, text, String.append_assoc]

/-- A group is balanced and holds its conditions that are left. -/
theorem group?_holds (hs : s.table.Inert s.dialect) {g : Group} (hg : ∀ c ∈ g.conditions, c.Plain)
    {r : Option (Connector × Fragment)} (h : s.group? g = .ok r) :
    (∀ e ∈ r, e.2.Balanced) ∧ ∀ c ∈ g.conditions, ∃ p, s.condition c = .ok p ∧ p.Balanced ∧
      (p = .empty ∨ ∃ e ∈ r, ∃ n, p.Within e.2 n) := by
  obtain ⟨fragments, hfragments, hr⟩ := map_eq_ok_iff.1 h
  have hbalanced : ∀ p ∈ fragments, p.Balanced := by
    intro p hp
    obtain ⟨c, hc, hok⟩ := exists_of_mem_answers hfragments hp
    exact balanced_condition hs (hg c hc) hok
  have hsep : (text (" " ++ g.connector.name ++ " ")).Balanced := by
    cases g.connector <;> exact ⟨rfl, rfl⟩
  have hopen : (text "(").Balanced := ⟨rfl, rfl⟩
  dsimp only at hr
  generalize hleft : fragments.filter (fun f => !f.isEmpty) = left at hr
  -- What is left out has no text, so it has no values either.
  have hin : ∀ p ∈ fragments, p = .empty ∨ p ∈ left := by
    intro p hp
    by_cases he : p.isEmpty = true
    · exact .inl ((hbalanced p hp).eq_empty he)
    · exact .inr (hleft ▸ List.mem_filter.2 ⟨hp, by simpa using he⟩)
  have hleftBalanced : ∀ p ∈ left, p.Balanced :=
    fun p hp => hbalanced p (List.mem_of_mem_filter (hleft ▸ hp))
  split at hr
  · rename_i hnone
    subst hr
    refine ⟨by rintro e ⟨⟩, fun c hc => ?_⟩
    obtain ⟨p, hp, hok⟩ := exists_of_mem_of_mapM_eq_ok hfragments hc
    refine ⟨p, hok, hbalanced p hp, .inl ((hin p hp).resolve_right ?_)⟩
    rw [List.isEmpty_iff.1 hnone]
    exact List.not_mem_nil
  · subst hr
    rw [groupBody_eq]
    refine ⟨fun e he => ?_, fun c hc => ?_⟩
    · obtain rfl := Option.some.inj he
      exact hopen.append ((Balanced.joined hsep hleftBalanced).append ⟨rfl, rfl⟩)
    · obtain ⟨p, hp, hok⟩ := exists_of_mem_of_mapM_eq_ok hfragments hc
      refine ⟨p, hok, hbalanced p hp, (hin p hp).imp_right fun hpleft => ?_⟩
      obtain ⟨n, hn⟩ := exists_within_joined hsep hleftBalanced hpleft
      exact ⟨_, rfl, _, (hn.append_right _).append_left hopen⟩

/-- A group behind its connector. -/
def connected (e : Connector × Fragment) : Fragment := text (e.1.name ++ " ") ++ e.2

theorem joinGroups_cons (e : Connector × Fragment) (rest : List (Connector × Fragment)) :
    joinGroups (e :: rest) = text "WHERE " ++ joined " " (e.2 :: rest.map connected) := by
  have hsql : attached rest = (rest.map connected).map Fragment.sql := by
    simp [attached, connected, text]
  have hvalues : allValues (rest.map Prod.snd) = allValues (rest.map connected) := by
    simp [allValues, connected, text, List.flatMap_map]
  change Fragment.mk _ _ = Fragment.mk _ _
  rw [hsql]
  simp only [joined, List.map_cons, text, List.nil_append]
  rw [allValues, List.flatMap_cons, ← allValues, hvalues]
  rfl

theorem joinGroups_holds {gs : List (Connector × Fragment)} (h : ∀ e ∈ gs, e.2.Balanced) :
    (joinGroups gs).Balanced ∧ ∀ e ∈ gs, ∃ n, e.2.Within (joinGroups gs) n := by
  cases gs with
  | nil => exact ⟨balanced_empty, List.forall_mem_nil _⟩
  | cons e rest =>
    have hwhere : (text "WHERE ").Balanced := ⟨rfl, rfl⟩
    have hsep : (text " ").Balanced := ⟨rfl, rfl⟩
    have hname : ∀ k : Connector, (text (k.name ++ " ")).Balanced := fun k => by
      cases k <;> exact ⟨rfl, rfl⟩
    have hparts : ∀ p ∈ e.2 :: rest.map connected, p.Balanced := by
      intro p hp
      rcases List.mem_cons.1 hp with rfl | hp
      · exact h e List.mem_cons_self
      · obtain ⟨d, hd, rfl⟩ := List.mem_map.1 hp
        exact (hname d.1).append (h d (List.mem_cons_of_mem _ hd))
    have hin : ∀ p ∈ e.2 :: rest.map connected, ∃ n, p.Within (joinGroups (e :: rest)) n := by
      intro p hp
      obtain ⟨n, hn⟩ := exists_within_joined hsep hparts hp
      rw [joinGroups_cons]
      exact ⟨_, hn.append_left hwhere⟩
    refine ⟨?_, fun d hd => ?_⟩
    · rw [joinGroups_cons]
      exact hwhere.append (.joined hsep hparts)
    · rcases List.mem_cons.1 hd with rfl | hd
      · exact hin _ List.mem_cons_self
      · obtain ⟨n, hn⟩ := hin _ (List.mem_cons_of_mem _ (List.mem_map_of_mem hd))
        exact ⟨_, ((within_self d.2).append_left (hname d.1)).trans hn⟩

/-- A WHERE clause is balanced and holds its conditions. -/
theorem whereClause_holds (hs : s.table.Inert s.dialect) {groups : List Group}
    (hgroups : ∀ g ∈ groups, ∀ c ∈ g.conditions, c.Plain) {f : Fragment}
    (h : s.whereClause groups = .ok f) :
    f.Balanced ∧ ∀ g ∈ groups, ∀ c ∈ g.conditions, ∃ p n, s.condition c = .ok p ∧ p.Balanced ∧
      p.Within f n := by
  obtain ⟨compiled, hcompiled, rfl⟩ := map_eq_ok_iff.1 h
  have hbalanced : ∀ e ∈ compiled.filterMap id, e.2.Balanced := by
    intro e he
    obtain ⟨r, hr, hre⟩ := List.mem_filterMap.1 he
    obtain ⟨g, hg, hok⟩ := exists_of_mem_answers hcompiled hr
    exact (group?_holds hs (hgroups g hg) hok).1 e hre
  obtain ⟨hall, hwithin⟩ := joinGroups_holds hbalanced
  refine ⟨hall, fun g hg c hc => ?_⟩
  obtain ⟨r, hr, hok⟩ := exists_of_mem_of_mapM_eq_ok hcompiled hg
  obtain ⟨p, hp, hpb, rfl | ⟨e, he, n, hn⟩⟩ := (group?_holds hs (hgroups g hg) hok).2 c hc
  · exact ⟨_, 0, hp, hpb, within_empty _⟩
  · obtain ⟨k, hk⟩ := hwithin e (List.mem_filterMap.2 ⟨r, hr, he⟩)
    exact ⟨p, _, hp, hpb, hn.trans hk⟩

/-! ### The other clauses -/

theorem balanced_groupItem (hs : s.table.Inert s.dialect) {item : GroupItem} (hitem : item.Plain)
    {sql : String} (h : s.groupItem item = .ok sql) : (text sql).Balanced := by
  cases item with
  | column name =>
    obtain ⟨c, hc, rfl⟩ := map_eq_ok_iff.1 h
    exact balanced_quoted (inert_of_column hs hc).2
  | expression sql => exact hitem.elim

theorem balanced_orderItem (hs : s.table.Inert s.dialect) {item : OrderItem} (hitem : item.Plain)
    {sql : String} (h : s.orderItem item = .ok sql) : (text sql).Balanced := by
  cases item with
  | column name direction =>
    obtain ⟨c, hc, rfl⟩ := map_eq_ok_iff.1 h
    have hdirection : (text direction.name).Balanced := by
      cases direction <;> exact ⟨rfl, rfl⟩
    exact ((balanced_quoted (inert_of_column hs hc).2).text_append ⟨rfl, rfl⟩).text_append
      hdirection
  | expression sql direction => exact hitem.elim

theorem balanced_groupBy (hs : s.table.Inert s.dialect) {items : List GroupItem}
    (hitems : ∀ item ∈ items, item.Plain) {sql : String} (h : s.groupBy items = .ok sql) :
    (text sql).Balanced := by
  have hword : (text "GROUP BY ").Balanced := ⟨rfl, rfl⟩
  exact balanced_clause hword (fun item hitem _ => balanced_groupItem hs (hitems item hitem)) h

theorem balanced_orderBy (hs : s.table.Inert s.dialect) {items : List OrderItem}
    (hitems : ∀ item ∈ items, item.Plain) {sql : String} (h : s.orderBy items = .ok sql) :
    (text sql).Balanced := by
  have hword : (text "ORDER BY ").Balanced := ⟨rfl, rfl⟩
  exact balanced_clause hword (fun item hitem _ => balanced_orderItem hs (hitems item hitem)) h

theorem balanced_havingAggregate (hs : s.table.Inert s.dialect) {function : Aggregate}
    {field : Option String} {sql : String} (h : s.havingAggregate function field = .ok sql) :
    (text sql).Balanced := by
  unfold havingAggregate at h
  split at h
  · cases h
    exact ⟨rfl, rfl⟩
  · split at h
    · cases h
      exact ⟨rfl, rfl⟩
    · obtain ⟨c, hc, rfl⟩ := map_eq_ok_iff.1 h
      exact (Balanced.text_append ⟨rfl, rfl⟩
        (balanced_quoted (inert_of_column hs hc).2)).text_append ⟨rfl, rfl⟩
  · cases h
  · split at h
    · cases h
    · rename_i c hc
      split at h
      · cases h
        exact (((balanced_name _).text_append ⟨rfl, rfl⟩).text_append
          (balanced_decimalCast (balanced_quoted (inert_of_column hs hc).2))).text_append ⟨rfl, rfl⟩
      · cases h

theorem balanced_havingItem (hs : s.table.Inert s.dialect) {item : HavingItem} (hitem : item.Plain)
    {f : Fragment} (h : s.havingItem item = .ok f) : f.Balanced := by
  cases item with
  | aggregate function field operator value =>
    rw [havingItem] at h
    split at h
    · cases h
    · rename_i symbol hsymbol
      have hsymbol : (text symbol).Balanced := by
        cases operator <;> cases hsymbol <;> exact ⟨rfl, rfl⟩
      split at h
      · cases h
      · rename_i expression hexpression
        split at h
        · cases h
        · cases h
          exact (((balanced_havingAggregate hs hexpression).text_append ⟨rfl, rfl⟩).text_append
            hsymbol).text_append (balanced_mark _)
  | expression sql => exact hitem.elim

/-- A HAVING clause is balanced and holds its conditions. -/
theorem having_holds (hs : s.table.Inert s.dialect) {items : List HavingItem}
    (hitems : ∀ item ∈ items, item.Plain) {f : Fragment} (h : s.having items = .ok f) :
    f.Balanced ∧ ∀ item ∈ items, ∃ p n, s.havingItem item = .ok p ∧ p.Balanced ∧ p.Within f n := by
  unfold having at h
  split at h
  · rename_i hnone
    cases h
    rw [List.isEmpty_iff.1 hnone]
    exact ⟨balanced_empty, List.forall_mem_nil _⟩
  · obtain ⟨parts, hparts, rfl⟩ := map_eq_ok_iff.1 h
    have hopen : (text "HAVING ").Balanced := ⟨rfl, rfl⟩
    have hsep : (text " AND ").Balanced := ⟨rfl, rfl⟩
    have hbalanced : ∀ p ∈ parts, p.Balanced := by
      intro p hp
      obtain ⟨item, hitem, hok⟩ := exists_of_mem_answers hparts hp
      exact balanced_havingItem hs (hitems item hitem) hok
    refine ⟨hopen.append (.joined hsep hbalanced), fun item hitem => ?_⟩
    obtain ⟨p, hp, hok⟩ := exists_of_mem_of_mapM_eq_ok hparts hitem
    obtain ⟨n, hn⟩ := exists_within_joined hsep hbalanced hp
    exact ⟨p, _, hok, hbalanced p hp, hn.append_left hopen⟩

theorem balanced_limit (n : Option Int64) : (text (s.limit n)).Balanced := by
  unfold limit
  split
  · split
    · exact balanced_rowCap _ _
    · exact balanced_empty
  · exact balanced_empty

/-! ### Whole queries -/

/-- Clauses with a blank between them; those without text leave no trace. -/
def clauses (parts : List Fragment) : Fragment :=
  ⟨joinClauses (parts.map Fragment.sql), allValues parts⟩

theorem allValues_filter {parts : List Fragment} (h : ∀ p ∈ parts, p.Balanced) :
    allValues (parts.filter fun p => !p.isEmpty) = allValues parts := by
  induction parts with
  | nil => rfl
  | cons p parts ih =>
    have ih := ih fun q hq => h q (List.mem_cons_of_mem _ hq)
    unfold allValues at ih ⊢
    cases he : p.isEmpty with
    | true =>
      rw [List.filter_cons_of_neg (by simp [he]), ih, (h p List.mem_cons_self).eq_empty he]
      rfl
    | false =>
      rw [List.filter_cons_of_pos (by simp [he]), List.flatMap_cons, List.flatMap_cons, ih]

theorem clauses_eq {parts : List Fragment} (h : ∀ p ∈ parts, p.Balanced) :
    clauses parts = joined " " (parts.filter fun p => !p.isEmpty) := by
  rw [clauses, joined, allValues_filter h, joinClauses, List.filter_map]
  rfl

theorem balanced_of_filter {parts : List Fragment} (h : ∀ p ∈ parts, p.Balanced) {p : Fragment}
    (hp : p ∈ parts.filter fun p => !p.isEmpty) : p.Balanced := h p (List.mem_of_mem_filter hp)

theorem balanced_clauses {parts : List Fragment} (h : ∀ p ∈ parts, p.Balanced) :
    (clauses parts).Balanced := by
  rw [clauses_eq h]
  exact .joined ⟨rfl, rfl⟩ fun p hp => balanced_of_filter h hp

/-- A clause stands behind the values of the clauses before it. -/
theorem carries_clauses {as bs : List Fragment} {p : Fragment}
    (h : ∀ q ∈ as ++ p :: bs, q.Balanced) :
    (clauses (as ++ p :: bs)).Carries p (allValues as).length := by
  have hp : p.Balanced := h p (by simp)
  cases he : p.isEmpty with
  | true =>
    rw [hp.eq_empty he]
    exact carries_empty _ _
  | false =>
    have has : ∀ q ∈ as, q.Balanced := fun q hq => h q (List.mem_append_left _ hq)
    rw [clauses_eq h, List.filter_append, List.filter_cons_of_pos (by simp [he]),
      ← allValues_filter has]
    exact (within_joined ⟨rfl, rfl⟩ (fun q hq => balanced_of_filter has hq) p).carries hp

theorem exists_within_clauses {parts : List Fragment} (h : ∀ p ∈ parts, p.Balanced) {p : Fragment}
    (hp : p ∈ parts) : ∃ n, p.Within (clauses parts) n := by
  cases he : p.isEmpty with
  | true =>
    rw [(h p hp).eq_empty he]
    exact ⟨0, within_empty _⟩
  | false =>
    rw [clauses_eq h]
    exact exists_within_joined ⟨rfl, rfl⟩ (fun q hq => balanced_of_filter h hq)
      (List.mem_filter.2 ⟨hp, by simp [he]⟩)

/-- The clauses of a query in order; those without values are texts. -/
def clauseList (select source : String) (filter : Fragment) (groupBy : String) (having : Fragment)
    (orderBy limit : String) : List Fragment :=
  [text ("SELECT " ++ select), text ("FROM " ++ source), filter, text groupBy, having, text orderBy,
    text limit]

/-- **A plain model over inert names compiles to one placeholder per value.**  The conditions of the
WHERE clause carry the first of them and those of the HAVING clause the rest; no other clause
carries any. -/
theorem query_tallied {table : String} {m : QueryModel} {f : Fragment}
    (hs : s.table.Inert s.dialect) (htable : ∀ part ∈ tableParts table, s.dialect.Inert part)
    (hm : m.Plain s.dialect) (h : s.query table m = .ok f) :
    placeholderCount f.sql = f.values.length ∧
      ∃ select source filter groupBy having orderBy,
        s.select m.select = .ok select ∧ s.tableRef table = .ok source ∧
        s.whereClause m.filters = .ok filter ∧ s.groupBy m.groupBy = .ok groupBy ∧
        s.having m.having = .ok having ∧ s.orderBy m.orderBy = .ok orderBy ∧
        f.sql = joinClauses ["SELECT " ++ select, "FROM " ++ source, filter.sql, groupBy,
          having.sql, orderBy, s.limit m.limit] ∧
        f.values = filter.values ++ having.values ∧
        f.Carries filter 0 ∧ f.Carries having filter.values.length ∧
        (∀ clause ∈ ["SELECT " ++ select, "FROM " ++ source, groupBy, orderBy, s.limit m.limit],
          ∃ n, f.Carries (.text clause) n) ∧
        (∀ g ∈ m.filters, ∀ c ∈ g.conditions, ∃ p n, s.condition c = .ok p ∧ f.Carries p n) ∧
        ∀ item ∈ m.having, ∃ p n, s.havingItem item = .ok p ∧ f.Carries p n := by
  simp only [query, bind_eq_ok_iff] at h
  obtain ⟨select, hselect, source, hsource, filter, hfilter, groupBy, hgroupBy, having, hhaving,
    orderBy, horderBy, h⟩ := h
  obtain ⟨hfilterBalanced, hconditions⟩ := whereClause_holds hs hm.filters hfilter
  obtain ⟨hhavingBalanced, hitems⟩ := having_holds hs hm.having hhaving
  have hbalanced : ∀ p ∈ clauseList select source filter groupBy having orderBy (s.limit m.limit),
      p.Balanced := by
    simp only [clauseList, List.forall_mem_cons]
    exact ⟨.text_append ⟨rfl, rfl⟩ (balanced_select hs hm.select hselect),
      .text_append ⟨rfl, rfl⟩ (balanced_tableRef htable hsource), hfilterBalanced,
      balanced_groupBy hs hm.groupBy hgroupBy, hhavingBalanced,
      balanced_orderBy hs hm.orderBy horderBy, balanced_limit _, List.forall_mem_nil _⟩
  have hf : f = clauses (clauseList select source filter groupBy having orderBy
      (s.limit m.limit)) := by
    rw [← Except.ok.inj h]
    simp [clauses, clauseList, allValues, text]
  have hfilterCarried := @carries_clauses [text ("SELECT " ++ select), text ("FROM " ++ source)]
    [text groupBy, having, text orderBy, text (s.limit m.limit)] filter hbalanced
  have hhavingCarried := @carries_clauses [text ("SELECT " ++ select), text ("FROM " ++ source),
    filter, text groupBy] [text orderBy, text (s.limit m.limit)] having hbalanced
  have hcount : (allValues [text ("SELECT " ++ select), text ("FROM " ++ source), filter,
      text groupBy]).length = filter.values.length := by simp [allValues, text]
  rw [hcount] at hhavingCarried
  rw [hf]
  refine ⟨(balanced_clauses hbalanced).placeholderCount_eq, select, source, filter, groupBy, having,
    orderBy, hselect, hsource, hfilter, hgroupBy, hhaving, horderBy, rfl,
    by simp [clauses, clauseList, allValues, text], hfilterCarried, hhavingCarried,
    fun clause hclause => ?_, fun g hg c hc => ?_, fun item hitem => ?_⟩
  · have hmem : text clause ∈
        clauseList select source filter groupBy having orderBy (s.limit m.limit) := by
      simp only [List.mem_cons, List.not_mem_nil, or_false] at hclause
      rcases hclause with rfl | rfl | rfl | rfl | rfl <;> simp [clauseList]
    obtain ⟨n, hn⟩ := exists_within_clauses hbalanced hmem
    exact ⟨n, hn.carries (hbalanced _ hmem)⟩
  · obtain ⟨p, n, hok, hp, hn⟩ := hconditions g hg c hc
    obtain ⟨k, hk⟩ := @exists_within_clauses _ hbalanced filter (by simp [clauseList])
    exact ⟨p, _, hok, (hn.trans hk).carries hp⟩
  · obtain ⟨p, n, hok, hp, hn⟩ := hitems item hitem
    obtain ⟨k, hk⟩ := @exists_within_clauses _ hbalanced having (by simp [clauseList])
    exact ⟨p, _, hok, (hn.trans hk).carries hp⟩

/-- A quote and a `?` in a name, a comment in an alias, and a list of one value. -/
theorem query_tallied_quoted :
    (Scope.mk ⟨[("A\"?", ⟨"A\"?", none, false, false, true⟩)]⟩ .db2).query "T"
        ⟨[.column "A\"?" (some "--")], [⟨.and, [.membership false "A\"?" [.string "x"]]⟩], [],
          [.aggregate .count none .less (.integer 3)], [], none⟩ =
      .ok ⟨"SELECT \"A\"\"?\" AS \"--\" FROM \"T\" WHERE (\"A\"\"?\" IN (?)) HAVING COUNT(*) < ?",
        [.text "x", .int 3]⟩ ∧
    placeholderCount
        "SELECT \"A\"\"?\" AS \"--\" FROM \"T\" WHERE (\"A\"\"?\" IN (?)) HAVING COUNT(*) < ?" =
      [BindValue.text "x", .int 3].length := by
  have hquery : (Scope.mk ⟨[("A\"?", ⟨"A\"?", none, false, false, true⟩)]⟩ .db2).query "T"
      ⟨[.column "A\"?" (some "--")], [⟨.and, [.membership false "A\"?" [.string "x"]]⟩], [],
        [.aggregate .count none .less (.integer 3)], [], none⟩ =
      .ok ⟨"SELECT \"A\"\"?\" AS \"--\" FROM \"T\" WHERE (\"A\"\"?\" IN (?)) HAVING COUNT(*) < ?",
        [.text "x", .int 3]⟩ := toOption_eq_some_iff.1 (by decide +kernel)
  have hlabel : ∀ a ∈ filled (some "--"), Dialect.db2.Inert a := by decide
  have hplain : QueryModel.Plain .db2
      ⟨[.column "A\"?" (some "--")], [⟨.and, [.membership false "A\"?" [.string "x"]]⟩], [],
        [.aggregate .count none .less (.integer 3)], [], none⟩ :=
    ⟨List.forall_mem_singleton.2 hlabel, by simp [Condition.Plain], by simp,
      by simp [HavingItem.Plain], by simp⟩
  exact ⟨hquery, (query_tallied (by decide) (by decide) hplain hquery).1⟩

/-- A backslash in a name is not inert: it takes the closing quote away, and the `?` with it. -/
example : placeholderCount ("SELECT * FROM " ++ Dialect.db2.quote "T\\" ++ " WHERE A = ?") = 0 := by
  decide +kernel

end Scope

end BoundQuery
