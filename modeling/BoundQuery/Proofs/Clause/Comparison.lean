import BoundQuery.Clause.Query
import BoundQuery.Proofs.Except

/-!
# Compiling twice

Two models, or one model in two scopes, are compiled side by side, clause by clause.  What is known
of the parts is known of the whole, because clauses only join texts and values and leave out
fragments without text.

* `QueryModel.Matches` : two models that are equal but for the filter values, which are related;
* `Comparison` : what is known of the columns, the spelling and the values of two compilations;
  `Comparison.agree_query` shows that **it is then known of the whole queries**;
* `Scope.query_matches` : **filter values reach a statement as bind values only**: models that
  match compile to one text and to as many values;
* `Scope.query_dialects` : **a dialect changes the spelling only**: the values and the faults are
  those of any other dialect.
-/

namespace BoundQuery

/-! ### Models that match -/

section Matches

variable (W : Json → Json → Prop)

/-- Whether two conditions are equal but for their values, which are related one by one. -/
inductive Condition.Matches : Condition → Condition → Prop
  /-- Tests by one operator. -/
  | test (name : String) (operator : Operator) {v w : Json} {vs ws : List Json} (hvalue : W v w)
    (hvalues : List.Forall₂ W vs ws) :
    Matches (.test name operator v vs) (.test name operator w ws)
  /-- Tests against lists of one length. -/
  | membership (negated : Bool) (name : String) {vs ws : List Json}
    (hvalues : List.Forall₂ W vs ws) :
    Matches (.membership negated name vs) (.membership negated name ws)
  /-- Tests against bounds. -/
  | range (negated : Bool) (name : String) {vs ws : List Json} (hvalues : List.Forall₂ W vs ws) :
    Matches (.range negated name vs) (.range negated name ws)
  /-- One subquery. -/
  | subquery (negated : Bool) (sql : String) :
    Matches (.subquery negated sql) (.subquery negated sql)
  /-- One condition in SQL. -/
  | expression (sql : String) : Matches (.expression sql) (.expression sql)

/-- Whether two groups have one connector and conditions that match one by one. -/
structure Group.Matches (g h : Group) : Prop where
  /-- The connector. -/
  connector : g.connector = h.connector
  /-- The conditions. -/
  conditions : List.Forall₂ (Condition.Matches W) g.conditions h.conditions

/-- Whether two conditions on groups of rows are equal but for their values, which are related. -/
inductive HavingItem.Matches : HavingItem → HavingItem → Prop
  /-- Comparisons of one aggregate. -/
  | aggregate (function : Aggregate) (field : Option String) (operator : Operator) {v w : Json}
    (hvalue : W v w) :
    Matches (.aggregate function field operator v) (.aggregate function field operator w)
  /-- One condition in SQL. -/
  | expression (sql : String) : Matches (.expression sql) (.expression sql)

/-- Whether two models are equal but for their values, which are related one by one. -/
structure QueryModel.Matches (m n : QueryModel) : Prop where
  /-- The SELECT list. -/
  select : m.select = n.select
  /-- The groups of conditions. -/
  filters : List.Forall₂ (Group.Matches W) m.filters n.filters
  /-- The GROUP BY list. -/
  groupBy : m.groupBy = n.groupBy
  /-- The conditions on groups of rows. -/
  having : List.Forall₂ (HavingItem.Matches W) m.having n.having
  /-- The ORDER BY list. -/
  orderBy : m.orderBy = n.orderBy
  /-- The greatest number of rows. -/
  limit : m.limit = n.limit

variable {W}

theorem Condition.Matches.refl (h : ∀ v, W v v) : ∀ c : Condition, c.Matches W c
  | .test name operator v _ =>
    .test name operator (h v) (List.forall₂_same.2 fun v _ => h v)
  | .membership negated name _ =>
    .membership negated name (List.forall₂_same.2 fun v _ => h v)
  | .range negated name _ => .range negated name (List.forall₂_same.2 fun v _ => h v)
  | .subquery negated sql => .subquery negated sql
  | .expression sql => .expression sql

theorem HavingItem.Matches.refl (h : ∀ v, W v v) : ∀ item : HavingItem, item.Matches W item
  | .aggregate function field operator v => .aggregate function field operator (h v)
  | .expression sql => .expression sql

theorem QueryModel.Matches.refl (h : ∀ v, W v v) (m : QueryModel) : m.Matches W m where
  select := rfl
  filters := List.forall₂_same.2 fun _ _ => ⟨rfl, List.forall₂_same.2 fun c _ => .refl h c⟩
  groupBy := rfl
  having := List.forall₂_same.2 fun item _ => .refl h item
  orderBy := rfl
  limit := rfl

theorem Condition.Matches.isSuppressed_eq {c d : Condition} (h : c.Matches W d) :
    Scope.isSuppressed c = Scope.isSuppressed d := by
  cases h <;> rfl

end Matches

/-! ### Answers that depend on answers -/

namespace Scope

variable (s : Scope)

theorem aggregateArgument_some {function : Aggregate} (h : function ≠ .count) (name : String)
    (distinct : Bool) :
    s.aggregateArgument function (some name) distinct =
      s.column "aggregate " name >>= fun c =>
        if function.requiresNumeric then
          if c.isNumeric then
            .ok ((if distinct then "DISTINCT " else "") ++ s.dialect.decimalCast (s.quote c.name))
          else .error (.notNumeric function name)
        else .ok ((if distinct then "DISTINCT " else "") ++ s.quote c.name) := by
  cases function with
  | count => exact absurd rfl h
  | _ =>
    simp only [aggregateArgument]
    cases s.column "aggregate " name <;> rfl

theorem havingAggregate_some {function : Aggregate} (h : function ≠ .count) (name : String) :
    s.havingAggregate function (some name) =
      s.column "HAVING " name >>= fun c =>
        if c.isNumeric then
          .ok (function.name ++ "(" ++ s.dialect.decimalCast (s.quote c.name) ++ ")")
        else .error (.havingNotNumeric function) := by
  cases function with
  | count => exact absurd rfl h
  | _ =>
    simp only [havingAggregate]
    cases s.column "HAVING " name <;> rfl

theorem comparison_eq (c : Column) (symbol : String) (value : Json) :
    s.comparison c symbol value =
      ((castValue c value).mapError .value).map fun v =>
        ⟨s.quote c.name ++ " " ++ symbol ++ " ?", [v]⟩ := by
  unfold comparison
  cases castValue c value <;> rfl

theorem havingItem_aggregate (function : Aggregate) (field : Option String) {operator : Operator}
    {symbol : String} (h : operator.comparison? = some symbol) (value : Json) :
    s.havingItem (.aggregate function field operator value) =
      s.havingAggregate function (filled field) >>= fun expression =>
        ((castNumber ("HAVING " ++ function.name) value).mapError .value).map fun v =>
          ⟨expression ++ " " ++ symbol ++ " ?", [v]⟩ := by
  simp only [havingItem, h]
  cases s.havingAggregate function (filled field) with
  | error fault => rfl
  | ok expression => cases castNumber ("HAVING " ++ function.name) value <;> rfl

end Scope

/-! ### Comparisons -/

/-- Whether two dialects write all that a clause leaves to them alike. -/
structure Dialect.SpellsAs (d e : Dialect) : Prop where
  /-- Names in quotes. -/
  quote : ∀ name, d.quote name = e.quote name
  /-- Casts to decimal numbers. -/
  decimalCast : ∀ expression, d.decimalCast expression = e.decimalCast expression
  /-- The clause that limits the number of rows. -/
  rowCap : ∀ limit, d.rowCap limit = e.rowCap limit

/-- What is known of compilations in two scopes. -/
structure Comparison (s t : Scope) where
  /-- Whether a fault in the first scope may stand against anything. -/
  left : Prop
  /-- Whether a fault in the second scope may stand against anything. -/
  right : Prop
  /-- Whether the texts are compared. -/
  texts : Prop
  /-- How filter values are related. -/
  given : Json → Json → Prop
  /-- How bind values are related. -/
  bound : BindValue → BindValue → Prop
  /-- A name means the same column. -/
  column : ∀ clause name, Agree left right Eq (s.column clause name) (t.column clause name)
  /-- Texts are only compared if they are spelled alike. -/
  spelling : texts → s.dialect.SpellsAs t.dialect
  /-- Related values are cast to related values. -/
  cast : ∀ {v w}, given v w → ∀ c, Agree left right bound (castValue c v) (castValue c w)
  /-- Related values are related as numbers. -/
  number : ∀ {v w}, given v w → ∀ what,
    Agree left right bound (castNumber what v) (castNumber what w)
  /-- Related values make related patterns. -/
  pattern : ∀ {v w}, given v w → ∀ before after,
    bound (.text (before ++ v.text ++ after)) (.text (before ++ w.text ++ after))

namespace Comparison

open Scope

variable {s t : Scope} (k : Comparison s t)

/-- Whether two answers agree as far as the comparison goes. -/
abbrev Agreeing {ε α β : Type} (R : α → β → Prop) (x : Except ε α) (y : Except ε β) : Prop :=
  Agree k.left k.right R x y

/-- Whether two texts are the same if texts are compared. -/
def Texts (a b : String) : Prop := k.texts → a = b

/-- Whether two fragments are related. -/
structure Fragments (f g : Fragment) : Prop where
  /-- The texts. -/
  sql : k.Texts f.sql g.sql
  /-- Both leave a trace, or neither does, whether texts are compared or not. -/
  isEmpty : f.isEmpty = g.isEmpty
  /-- The values, one by one. -/
  values : List.Forall₂ k.bound f.values g.values

variable {k}

/-! ### Texts and fragments -/

theorem texts_self (a : String) : k.Texts a a := fun _ => rfl

theorem Texts.append {a b a' b' : String} (h : k.Texts a b) (h' : k.Texts a' b') :
    k.Texts (a ++ a') (b ++ b') := fun ht => by rw [h ht, h' ht]

theorem texts_quote (name : String) : k.Texts (s.quote name) (t.quote name) :=
  fun ht => (k.spelling ht).quote name

theorem texts_decimalCast {a b : String} (h : k.Texts a b) :
    k.Texts (s.dialect.decimalCast a) (t.dialect.decimalCast b) :=
  fun ht => by rw [h ht, (k.spelling ht).decimalCast]

theorem texts_aliased {a b : String} (h : k.Texts a b) (label : Option String) :
    k.Texts (s.aliased a label) (t.aliased b label) := by
  unfold aliased
  split
  · exact (h.append (texts_self " AS ")).append (texts_quote _)
  · exact h

theorem texts_intercalate (separator : String) {as bs : List String}
    (h : List.Forall₂ k.Texts as bs) :
    k.Texts (separator.intercalate as) (separator.intercalate bs) := by
  intro ht
  have hall : List.Forall₂ Eq as bs := h.imp fun _ _ hab => hab ht
  rw [List.forall₂_eq_eq_eq] at hall
  rw [hall]

theorem texts_limit (limit : Option Int64) : k.Texts (s.limit limit) (t.limit limit) := by
  cases limit with
  | none => exact texts_self ""
  | some n =>
    simp only [Scope.limit]
    split
    · exact fun ht => (k.spelling ht).rowCap _
    · exact texts_self ""

theorem fragments_text (a : String) : k.Fragments (.text a) (.text a) := ⟨texts_self a, rfl, .nil⟩

theorem isEmpty_append {a b : String} (vs : List BindValue) (h : a ≠ "" ∨ b ≠ "") :
    Fragment.isEmpty ⟨a ++ b, vs⟩ = false := by
  rw [Bool.eq_false_iff, Ne, Fragment.isEmpty, String.isEmpty_iff, String.append_eq_empty_iff]
  exact fun hempty => h.elim (absurd hempty.1) (absurd hempty.2)

/-- A fragment with something in front of it leaves a trace in every spelling. -/
theorem fragments_of_start {start a b : String} {vs ws : List BindValue} (hstart : start ≠ "")
    (h : k.Texts a b) (hvalues : List.Forall₂ k.bound vs ws) :
    k.Fragments ⟨start ++ a, vs⟩ ⟨start ++ b, ws⟩ where
  sql := (texts_self start).append h
  isEmpty := by rw [isEmpty_append vs (.inl hstart), isEmpty_append ws (.inl hstart)]
  values := hvalues

/-- A fragment with something at its end leaves a trace in every spelling. -/
theorem fragments_of_end {a b rest : String} {vs ws : List BindValue} (h : k.Texts a b)
    (hrest : rest ≠ "") (hvalues : List.Forall₂ k.bound vs ws) :
    k.Fragments ⟨a ++ rest, vs⟩ ⟨b ++ rest, ws⟩ where
  sql := h.append (texts_self rest)
  isEmpty := by rw [isEmpty_append vs (.inr hrest), isEmpty_append ws (.inr hrest)]
  values := hvalues

theorem texts_intercalate_sql (separator : String) {fs gs : List Fragment}
    (h : List.Forall₂ k.Fragments fs gs) :
    k.Texts (separator.intercalate (fs.map Fragment.sql))
      (separator.intercalate (gs.map Fragment.sql)) :=
  texts_intercalate separator (List.rel_map (fun _ _ hfg => hfg.sql) h)

theorem forall₂_allValues {fs gs : List Fragment} (h : List.Forall₂ k.Fragments fs gs) :
    List.Forall₂ k.bound (allValues fs) (allValues gs) :=
  List.rel_flatMap h fun _ _ hfg => hfg.values

/-! ### SELECT lists -/

theorem agree_columnRef (clause name : String) :
    k.Agreeing k.Texts (s.columnRef clause name) (t.columnRef clause name) := by
  unfold columnRef
  split
  · exact texts_self "*"
  · refine (k.column clause name).map ?_
    rintro c _ rfl
    exact texts_quote c.name

theorem agree_tableRef (name : String) :
    k.Agreeing k.Texts (s.tableRef name) (t.tableRef name) := by
  unfold tableRef
  split
  · exact .fault _
  · refine texts_intercalate "." ?_
    rw [List.forall₂_map_left_iff, List.forall₂_map_right_iff]
    exact List.forall₂_same.2 fun part _ => texts_quote part

theorem agree_aggregateArgument (function : Aggregate) (field : Option String) (distinct : Bool) :
    k.Agreeing k.Texts (s.aggregateArgument function field distinct)
      (t.aggregateArgument function field distinct) := by
  cases field with
  | none =>
    cases function with
    | count => exact texts_self "*"
    | _ => exact .fault _
  | some name =>
    by_cases hcount : function = .count
    · subst hcount
      simp only [aggregateArgument]
      split
      · exact texts_self "*"
      · exact (agree_columnRef "aggregate " name).map fun _ _ h => (texts_self _).append h
    · rw [aggregateArgument_some s hcount, aggregateArgument_some t hcount]
      refine (k.column "aggregate " name).bind ?_
      rintro c _ rfl
      split
      · split
        · exact (texts_self _).append (texts_decimalCast (texts_quote c.name))
        · exact .fault _
      · exact (texts_self _).append (texts_quote c.name)

theorem agree_selectItem (item : SelectItem) :
    k.Agreeing k.Texts (s.selectItem item) (t.selectItem item) := by
  cases item with
  | column name label =>
    refine (agree_columnRef "" name).map fun a b h ht => ?_
    rw [h ht]
    split
    · rfl
    · exact texts_aliased (texts_self b) label ht
  | aggregate function field distinct label =>
    refine (agree_aggregateArgument function (filled field) distinct).map fun _ _ h => ?_
    exact (((texts_self _).append h).append (texts_self ") AS ")).append (texts_quote _)
  | custom expression label =>
    simp only [selectItem]
    split
    · exact .fault _
    · exact texts_aliased (texts_self _) label

/-- A clause without entries is the same; any other is put together from its entries. -/
theorem agree_clause {α β γ : Type} {R : β → β → Prop} {S : γ → γ → Prop}
    {f g : α → Except ClauseFault β} {whole : List β → γ} {none : γ} (items : List α)
    (hitem : ∀ item, k.Agreeing R (f item) (g item)) (hnone : S none none)
    (hwhole : ∀ bs cs, List.Forall₂ R bs cs → S (whole bs) (whole cs)) :
    k.Agreeing S (if items.isEmpty then .ok none else (items.mapM f).map whole)
      (if items.isEmpty then .ok none else (items.mapM g).map whole) := by
  split
  · exact hnone
  · refine (Agree.mapM (R := Eq) (List.forall₂_refl items) ?_).map hwhole
    rintro item _ rfl
    exact hitem item

theorem agree_select (items : List SelectItem) :
    k.Agreeing k.Texts (s.select items) (t.select items) :=
  agree_clause items agree_selectItem (texts_self "*") fun _ _ => texts_intercalate ", "

/-! ### Conditions -/

theorem agree_castAll (c : Column) {vs ws : List Json} (h : List.Forall₂ k.given vs ws) :
    k.Agreeing (List.Forall₂ k.bound) (castAll c vs) (castAll c ws) :=
  (Agree.mapM h fun _ _ hvw => k.cast hvw c).mapError

theorem agree_membership (c : Column) (negated : Bool) {vs ws : List Json}
    (h : List.Forall₂ k.given vs ws) :
    k.Agreeing k.Fragments (s.membership c vs negated) (t.membership c ws negated) := by
  have hcast := agree_castAll c h
  unfold membership
  cases h with
  | nil => exact .fault _
  | cons _ _ =>
    refine hcast.map fun bs cs hbs => ?_
    rw [hbs.length_eq]
    refine fragments_of_end ?_ (by decide) hbs
    exact ((((texts_quote _).append (texts_self " ")).append (texts_self _)).append
      (texts_self " (")).append (texts_self _)

theorem agree_range (c : Column) (negated : Bool) {vs ws : List Json}
    (h : List.Forall₂ k.given vs ws) :
    k.Agreeing k.Fragments (s.range c vs negated) (t.range c ws negated) := by
  unfold range
  rw [h.length_eq]
  split
  · refine (agree_castAll c h).map fun bs cs hbs => fragments_of_end ?_ (by decide) hbs
    exact ((texts_quote _).append (texts_self " ")).append (texts_self _)
  · exact .fault _

theorem agree_comparison (c : Column) (symbol : String) {v w : Json} (h : k.given v w) :
    k.Agreeing k.Fragments (s.comparison c symbol v) (t.comparison c symbol w) := by
  rw [comparison_eq, comparison_eq]
  refine (k.cast h c).mapError.map fun b b' hb => fragments_of_end ?_ (by decide) (.cons hb .nil)
  exact ((texts_quote _).append (texts_self " ")).append (texts_self symbol)

theorem agree_pattern (c : Column) (negated : Bool) {a b : String}
    (h : k.bound (.text a) (.text b)) :
    k.Agreeing k.Fragments (s.pattern c negated a) (t.pattern c negated b) := by
  unfold Scope.pattern
  split
  · refine fragments_of_end ?_ (by decide) (.cons h .nil)
    exact ((texts_quote _).append (texts_self " ")).append (texts_self _)
  · exact .fault _

theorem agree_test (c : Column) (operator : Operator) {v w : Json} {vs ws : List Json}
    (h : k.given v w) (hs : List.Forall₂ k.given vs ws) :
    k.Agreeing k.Fragments (s.test c operator v vs) (t.test c operator w ws) := by
  have htext : k.bound (.text v.text) (.text w.text) := by simpa using k.pattern h "" ""
  cases operator with
  | equal | notEqual | greater | less | greaterEqual | lessEqual => exact agree_comparison c _ h
  | like | notLike => exact agree_pattern c _ htext
  | contains => exact agree_pattern c false (k.pattern h "%" "%")
  | inList | notInList => exact agree_membership c _ hs
  | between | notBetween => exact agree_range c _ hs
  | isNull | isNotNull => exact fragments_of_end (texts_quote _) (by decide) .nil

theorem agree_condition {c d : Condition} (h : c.Matches k.given d) :
    k.Agreeing k.Fragments (s.condition c) (t.condition d) := by
  unfold condition
  rw [h.isSuppressed_eq]
  split
  · exact fragments_text ""
  cases h with
  | test name operator hv hvs =>
    simp only [activeCondition]
    refine (k.column "" name).bind ?_
    rintro c _ rfl
    exact agree_test c operator hv hvs
  | membership negated name hvs =>
    simp only [activeCondition]
    refine (k.column "" name).bind ?_
    rintro c _ rfl
    exact agree_membership c negated hvs
  | range negated name hvs =>
    simp only [activeCondition]
    refine (k.column "" name).bind ?_
    rintro c _ rfl
    exact agree_range c negated hvs
  | subquery negated sql =>
    simp only [activeCondition]
    split
    · exact fragments_text _
    · exact .fault _
  | expression sql =>
    simp only [activeCondition]
    split
    · exact fragments_text _
    · exact .fault _

/-- Whether two groups that are left have one connector and related fragments. -/
def Connected (k : Comparison s t) (e e' : Connector × Fragment) : Prop :=
  e.1 = e'.1 ∧ k.Fragments e.2 e'.2

theorem fragments_groupBody (connector : Connector) {fs gs : List Fragment}
    (h : List.Forall₂ k.Fragments fs gs) :
    k.Fragments (groupBody connector fs) (groupBody connector gs) :=
  fragments_of_end ((texts_self "(").append (texts_intercalate_sql _ h)) (by decide)
    (forall₂_allValues h)

theorem agree_group? {g h : Group} (hgh : g.Matches k.given h) :
    k.Agreeing (Option.Rel k.Connected) (s.group? g) (t.group? h) := by
  refine (Agree.mapM hgh.conditions fun _ _ => agree_condition).map fun fs gs hfs => ?_
  -- The fragments that are left stand at the same places.
  have hleft : List.Forall₂ k.Fragments (fs.filter (!·.isEmpty)) (gs.filter (!·.isEmpty)) :=
    List.rel_filter (fun f g hfg => by simp only [hfg.isEmpty]) hfs
  rw [hgh.connector]
  generalize fs.filter (!·.isEmpty) = as at hleft ⊢
  generalize gs.filter (!·.isEmpty) = bs at hleft ⊢
  cases hleft with
  | nil => exact .none
  | cons hab hrest => exact .some ⟨rfl, fragments_groupBody _ (.cons hab hrest)⟩

theorem fragments_joinGroups {es es' : List (Connector × Fragment)}
    (h : List.Forall₂ k.Connected es es') : k.Fragments (joinGroups es) (joinGroups es') := by
  cases h with
  | nil => exact fragments_text ""
  | @cons e e' rest rest' he hrest =>
    have hattached : List.Forall₂ k.Texts (attached rest) (attached rest') :=
      List.rel_map (fun d d' hd => by
        simp only [hd.1]
        exact (texts_self _).append hd.2.sql) hrest
    have hparts : List.Forall₂ k.Fragments ((e :: rest).map Prod.snd)
        ((e' :: rest').map Prod.snd) := .cons he.2 (List.rel_map (fun _ _ hd => hd.2) hrest)
    exact fragments_of_start (by decide) (texts_intercalate " " (.cons he.2.sql hattached))
      (forall₂_allValues hparts)

theorem agree_whereClause {gs hs : List Group} (h : List.Forall₂ (Group.Matches k.given) gs hs) :
    k.Agreeing k.Fragments (s.whereClause gs) (t.whereClause hs) := by
  refine (Agree.mapM h fun _ _ => agree_group?).map fun os os' hos => ?_
  exact fragments_joinGroups (List.rel_filterMap (fun _ _ ho => ho) hos)

/-! ### The other clauses -/

theorem agree_groupItem (item : GroupItem) :
    k.Agreeing k.Texts (s.groupItem item) (t.groupItem item) := by
  cases item with
  | column name =>
    refine (k.column "GROUP BY " name).map ?_
    rintro c _ rfl
    exact texts_quote c.name
  | expression sql =>
    simp only [groupItem]
    split
    · exact texts_self _
    · exact .fault _

theorem agree_orderItem (item : OrderItem) :
    k.Agreeing k.Texts (s.orderItem item) (t.orderItem item) := by
  cases item with
  | column name direction =>
    refine (k.column "ORDER BY " name).map ?_
    rintro c _ rfl
    exact ((texts_quote c.name).append (texts_self " ")).append (texts_self _)
  | expression sql direction =>
    simp only [orderItem]
    split
    · split <;> exact texts_self _
    · exact .fault _

theorem agree_groupBy (items : List GroupItem) :
    k.Agreeing k.Texts (s.groupBy items) (t.groupBy items) :=
  agree_clause items agree_groupItem (texts_self "") fun _ _ h =>
    (texts_self _).append (texts_intercalate ", " h)

theorem agree_orderBy (items : List OrderItem) :
    k.Agreeing k.Texts (s.orderBy items) (t.orderBy items) :=
  agree_clause items agree_orderItem (texts_self "") fun _ _ h =>
    (texts_self _).append (texts_intercalate ", " h)

theorem agree_havingAggregate (function : Aggregate) (field : Option String) :
    k.Agreeing k.Texts (s.havingAggregate function field) (t.havingAggregate function field) := by
  cases field with
  | none =>
    cases function with
    | count => exact texts_self "COUNT(*)"
    | _ => exact .fault _
  | some name =>
    by_cases hcount : function = .count
    · subst hcount
      simp only [havingAggregate]
      split
      · exact texts_self "COUNT(*)"
      · refine (k.column "HAVING " name).map ?_
        rintro c _ rfl
        exact ((texts_self _).append (texts_quote c.name)).append (texts_self ")")
    · rw [havingAggregate_some s hcount, havingAggregate_some t hcount]
      refine (k.column "HAVING " name).bind ?_
      rintro c _ rfl
      split
      · exact ((texts_self _).append (texts_decimalCast (texts_quote c.name))).append
          (texts_self ")")
      · exact .fault _

theorem agree_havingItem {a b : HavingItem} (h : a.Matches k.given b) :
    k.Agreeing k.Fragments (s.havingItem a) (t.havingItem b) := by
  cases h with
  | aggregate function field operator hv =>
    cases hsymbol : operator.comparison? with
    | none =>
      simp only [havingItem, hsymbol]
      exact .fault _
    | some symbol =>
      rw [havingItem_aggregate s function field hsymbol,
        havingItem_aggregate t function field hsymbol]
      refine (agree_havingAggregate function (filled field)).bind fun e e' he => ?_
      refine (k.number hv _).mapError.map fun b b' hb => ?_
      exact fragments_of_end ((he.append (texts_self " ")).append (texts_self symbol)) (by decide)
        (.cons hb .nil)
  | expression sql =>
    simp only [havingItem]
    split
    · exact fragments_text _
    · exact .fault _

theorem agree_having {as bs : List HavingItem}
    (h : List.Forall₂ (HavingItem.Matches k.given) as bs) :
    k.Agreeing k.Fragments (s.having as) (t.having bs) := by
  have hparts := Agree.mapM h fun _ _ => agree_havingItem
  unfold having
  cases h with
  | nil => exact fragments_text ""
  | cons _ _ =>
    refine hparts.map fun fs gs hfs => ?_
    exact fragments_of_start (by decide) (texts_intercalate_sql " AND " hfs) (forall₂_allValues hfs)

/-! ### Whole queries -/

/-- What is known of the columns, the spelling and the values is known of the whole queries. -/
theorem agree_query (table : String) {m n : QueryModel} (h : m.Matches k.given n) :
    k.Agreeing (fun f g => k.Texts f.sql g.sql ∧ List.Forall₂ k.bound f.values g.values)
      (s.query table m) (t.query table n) := by
  unfold query
  rw [h.select, h.groupBy, h.orderBy, h.limit]
  refine (agree_select n.select).bind fun select select' hselect => ?_
  refine (agree_tableRef table).bind fun source source' hsource => ?_
  refine (agree_whereClause h.filters).bind fun filter filter' hfilter => ?_
  refine (agree_groupBy n.groupBy).bind fun groupBy groupBy' hgroupBy => ?_
  refine (agree_having h.having).bind fun having having' hhaving => ?_
  refine (agree_orderBy n.orderBy).bind fun orderBy orderBy' horderBy => ?_
  refine ⟨fun ht => ?_, List.rel_append hfilter.values hhaving.values⟩
  rw [hselect ht, hsource ht, hfilter.sql ht, hgroupBy ht, hhaving.sql ht, horderBy ht,
    texts_limit n.limit ht]

/-! ### Two models -/

/-- Two models in one scope, whatever their values are. -/
def ofValues (s : Scope) : Comparison s s where
  left := True
  right := True
  texts := True
  given _ _ := True
  bound _ _ := True
  column clause name := .refl (s.column clause name)
  spelling _ := ⟨fun _ => rfl, fun _ => rfl, fun _ => rfl⟩
  cast _ _ := .free _ _
  number _ _ := .free _ _
  pattern _ _ _ := trivial

/-! ### Two dialects -/

/-- One model in two dialects. -/
def ofDialects (columns : Table) (d e : Dialect) : Comparison ⟨columns, d⟩ ⟨columns, e⟩ where
  left := False
  right := False
  texts := d.SpellsAs e
  given := Eq
  bound := Eq
  column clause name := .refl ((columns.column clause name).mapError ClauseFault.column)
  spelling h := h
  cast h _ := h ▸ .refl _
  number h _ := h ▸ .refl _
  pattern h _ _ := h ▸ rfl

end Comparison

/-- Only two dialects have a spelling of their own. -/
theorem Dialect.spellsAs_of_not_mem {d e : Dialect} (hd : d ∉ [.db2, .mysql])
    (he : e ∉ [.db2, .mysql]) : d.SpellsAs e := by
  cases d <;> cases e <;> simp at hd he
  all_goals exact ⟨fun _ => rfl, fun _ => rfl, fun _ => rfl⟩

namespace Scope

/-- **Filter values reach a statement as bind values only.**  Two models that are equal but for the
values of their conditions compile to one text and to as many values, if they compile. -/
theorem query_matches (s : Scope) (table : String) {m n : QueryModel} {f g : Fragment}
    (h : m.Matches (fun _ _ => True) n) (hm : s.query table m = .ok f)
    (hn : s.query table n = .ok g) : f.sql = g.sql ∧ f.values.length = g.values.length := by
  have hagree := (Comparison.ofValues s).agree_query table h
  rw [hm, hn] at hagree
  obtain ⟨htexts, hvalues⟩ : _ ∧ _ := hagree
  exact ⟨htexts trivial, hvalues.length_eq⟩

/-- A text that looks like SQL against no value, and a number against its text. -/
theorem query_matches_injected :
    (Scope.mk ⟨[("A", ⟨"A", none, false, false, true⟩)]⟩ .db2).query "T"
        ⟨[], [⟨.and, [.test "A" .equal (.string "x' OR '1' = '1") []]⟩], [],
          [.aggregate .count none .less (.string "7")], [], none⟩ =
      .ok ⟨"SELECT * FROM \"T\" WHERE (\"A\" = ?) HAVING COUNT(*) < ?",
        [.text "x' OR '1' = '1", .int 7]⟩ ∧
    (Scope.mk ⟨[("A", ⟨"A", none, false, false, true⟩)]⟩ .db2).query "T"
        ⟨[], [⟨.and, [.test "A" .equal .null []]⟩], [],
          [.aggregate .count none .less (.integer 0)], [], none⟩ =
      .ok ⟨"SELECT * FROM \"T\" WHERE (\"A\" = ?) HAVING COUNT(*) < ?", [.null, .int 0]⟩ ∧
    [BindValue.text "x' OR '1' = '1", .int 7].length = [BindValue.null, .int 0].length := by
  have hm : (Scope.mk ⟨[("A", ⟨"A", none, false, false, true⟩)]⟩ .db2).query "T"
        ⟨[], [⟨.and, [.test "A" .equal (.string "x' OR '1' = '1") []]⟩], [],
          [.aggregate .count none .less (.string "7")], [], none⟩ =
      .ok ⟨"SELECT * FROM \"T\" WHERE (\"A\" = ?) HAVING COUNT(*) < ?",
        [.text "x' OR '1' = '1", .int 7]⟩ := toOption_eq_some_iff.1 (by decide +kernel)
  have hn : (Scope.mk ⟨[("A", ⟨"A", none, false, false, true⟩)]⟩ .db2).query "T"
        ⟨[], [⟨.and, [.test "A" .equal .null []]⟩], [],
          [.aggregate .count none .less (.integer 0)], [], none⟩ =
      .ok ⟨"SELECT * FROM \"T\" WHERE (\"A\" = ?) HAVING COUNT(*) < ?", [.null, .int 0]⟩ :=
    toOption_eq_some_iff.1 (by decide +kernel)
  refine ⟨hm, hn, (query_matches _ _ ?_ hm hn).2⟩
  exact {
    select := rfl
    filters := .cons ⟨rfl, .cons (.test _ _ trivial .nil) .nil⟩ .nil
    groupBy := rfl
    having := .cons (.aggregate _ _ _ trivial) .nil
    orderBy := rfl
    limit := rfl }

/-- **A dialect changes the spelling only.**  In two dialects a model compiles to the same values,
or to the same fault; and to the same text if neither dialect has a spelling of its own. -/
theorem query_dialects (columns : Table) (d e : Dialect) (table : String) (m : QueryModel) :
    (∃ fault, (Scope.mk columns d).query table m = .error fault ∧
      (Scope.mk columns e).query table m = .error fault) ∨
    ∃ f g, (Scope.mk columns d).query table m = .ok f ∧
      (Scope.mk columns e).query table m = .ok g ∧ f.values = g.values ∧
      (d ∉ [.db2, .mysql] → e ∉ [.db2, .mysql] → f.sql = g.sql) := by
  have hmatches : m.Matches (Comparison.ofDialects columns d e).given m :=
    .refl (fun _ => rfl) m
  have hagree := (Comparison.ofDialects columns d e).agree_query table hmatches
  refine hagree.fault_or_ok.imp_right ?_
  rintro ⟨f, g, hf, hg, htexts, hvalues⟩
  refine ⟨f, g, hf, hg, ?_, fun hd he => htexts (Dialect.spellsAs_of_not_mem hd he)⟩
  rwa [← List.forall₂_eq_eq_eq]

/-- The spellings of one query. -/
example :
    [Dialect.db2, .mysql, .sqlite].map (fun d =>
        ((Scope.mk ⟨[("N", ⟨"N", none, true, false, false⟩)]⟩ d).query "T"
          ⟨[.aggregate .avg (some "N") false (some "A")], [], [], [], [], some 5⟩).toOption.map
            Fragment.sql) =
      [some "SELECT AVG(DECIMAL(\"N\", 18, 2)) AS \"A\" FROM \"T\" FETCH FIRST 5 ROWS ONLY",
        some "SELECT AVG(CAST(\x60N\x60 AS DECIMAL(18, 2))) AS \x60A\x60 FROM \x60T\x60 LIMIT 5",
        some "SELECT AVG(CAST(\"N\" AS DECIMAL(18, 2))) AS \"A\" FROM \"T\" LIMIT 5"] := by
  decide +kernel

end Scope

end BoundQuery
