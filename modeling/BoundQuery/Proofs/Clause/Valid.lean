import BoundQuery.Clause.Query
import BoundQuery.Proofs.Except
import Mathlib.Data.List.TakeWhile

/-!
# Which models compile

A model is valid against a table when all its names are names of columns, all its texts say
something, and all its values fit.  What is a fault in one clause is none in another: `*` is a
column for a SELECT list and for COUNT only, and it suppresses a condition.

* `Blank`, `Missing`, `Names` : texts without content, and what an optional name says;
* `Column.Accepts` : a value fits a column; `exists_castValue_iff` shows that these are the values
  that can be cast;
* `SelectItem.Valid`, `Condition.Valid`, `GroupItem.Valid`, `OrderItem.Valid`, `HavingItem.Valid` :
  valid entries of the clauses;
* `QueryModel.Valid` : a valid model for a table of a given name;
* `Scope.exists_query_iff` : **the models that compile are the valid ones**, in every dialect.
-/

namespace BoundQuery

open Text

/-! ### Valid models -/

/-- Whether a text has no character but blanks. -/
def Blank (cs : List Char) : Prop := ∀ c ∈ cs, isBlank c = true

/-- Whether an optional name is absent or blank. -/
def Missing (field : Option String) : Prop := ∀ text, field = some text → Blank text.toList

/-- Whether an optional name is given and is this one, the blanks around it aside. -/
def Names (field : Option String) (name : String) : Prop :=
  ∃ text, field = some text ∧ ¬ Blank text.toList ∧ trim text = name

/-- Whether a name is that of a column. -/
def Table.Has (t : Table) (name : String) : Prop := ∃ c, t.get? name = some c

/-- Whether a name is that of a column of numbers. -/
def Table.HasNumeric (t : Table) (name : String) : Prop :=
  ∃ c, t.get? name = some c ∧ c.isNumeric = true

/-- Whether a value fits a column. -/
inductive Column.Accepts (c : Column) : Json → Prop where
  /-- No value fits every column. -/
  | null : c.Accepts .null
  /-- A column of numbers takes what writes a number. -/
  | number {v : Json} {n : BindValue} (hnumeric : c.isNumeric = true)
    (hnumber : toNumber? (unwrap v) = some n) : c.Accepts v
  /-- A column of dates takes a text. -/
  | date (text : String) (hnumeric : c.isNumeric = false) (hdate : c.isDate = true) :
    c.Accepts (.string text)
  /-- Any other column takes everything. -/
  | other (v : Json) (hnumeric : c.isNumeric = false) (hdate : c.isDate = false) : c.Accepts v

/-- Whether COUNT can count what an optional name says: rows, or the values of a column. -/
def Table.Countable (t : Table) (field : Option String) : Prop :=
  Missing field ∨ Names field "*" ∨ ∃ name, Names field name ∧ t.Has name

/-- Whether an entry of a SELECT list is valid. -/
def SelectItem.Valid (t : Table) : SelectItem → Prop
  | .column name _ => name = "*" ∨ t.Has name
  | .aggregate function field _ _ =>
    function = .count ∧ t.Countable field ∨
      function ≠ .count ∧ ∃ name, Names field name ∧
        if function.requiresNumeric then t.HasNumeric name else t.Has name
  | .custom sql _ => ¬ Blank sql.toList

/-- What an operator needs of the column and of the values of a test. -/
def Operator.Needs (c : Column) (value : Json) (values : List Json) : Operator → Prop
  | .equal | .notEqual | .greater | .less | .greaterEqual | .lessEqual => c.Accepts value
  | .like | .notLike | .contains => c.isString = true
  | .inList | .notInList => values ≠ [] ∧ ∀ v ∈ values, c.Accepts v
  | .between | .notBetween => values.length = 2 ∧ ∀ v ∈ values, c.Accepts v
  | .isNull | .isNotNull => True

/-- Whether a condition on rows is valid: it is suppressed, or it names a column and has what it
needs, or it has a text. -/
def Condition.Valid (t : Table) : Condition → Prop
  | .test name operator value values =>
    name = "*" ∨ ∃ c, t.get? name = some c ∧ operator.Needs c value values
  | .membership _ name values =>
    name = "*" ∨ ∃ c, t.get? name = some c ∧ values ≠ [] ∧ ∀ v ∈ values, c.Accepts v
  | .range _ name values =>
    name = "*" ∨ ∃ c, t.get? name = some c ∧ values.length = 2 ∧ ∀ v ∈ values, c.Accepts v
  | .subquery _ sql => trim sql = "*" ∨ ¬ Blank sql.toList
  | .expression sql => trim sql = "*" ∨ ¬ Blank sql.toList

/-- Whether a GROUP BY entry is valid. -/
def GroupItem.Valid (t : Table) : GroupItem → Prop
  | .column name => t.Has name
  | .expression sql => ¬ Blank sql.toList

/-- Whether an ORDER BY entry is valid. -/
def OrderItem.Valid (t : Table) : OrderItem → Prop
  | .column name _ => t.Has name
  | .expression sql _ => ¬ Blank sql.toList

/-- Whether a condition on groups of rows is valid: it has a text, or it compares with a number what
there is of an aggregate. -/
def HavingItem.Valid (t : Table) : HavingItem → Prop
  | .aggregate function field operator value =>
    operator ∈ [.equal, .notEqual, .greater, .less, .greaterEqual, .lessEqual] ∧
      (∃ n, toNumber? value = some n) ∧
      (function = .count ∧ t.Countable field ∨
        function ≠ .count ∧ ∃ name, Names field name ∧ t.HasNumeric name)
  | .expression sql => ¬ Blank sql.toList

/-- Whether a model is valid for a table of the given name. -/
structure QueryModel.Valid (t : Table) (table : String) (m : QueryModel) : Prop where
  /-- No part of the name between points is blank. -/
  table : ∀ part ∈ table.toList.splitOn '.', ¬ Blank part
  /-- The SELECT list. -/
  select : ∀ item ∈ m.select, item.Valid t
  /-- The conditions of all groups. -/
  filters : ∀ g ∈ m.filters, ∀ c ∈ g.conditions, c.Valid t
  /-- The GROUP BY list. -/
  groupBy : ∀ item ∈ m.groupBy, item.Valid t
  /-- The conditions on groups of rows. -/
  having : ∀ item ∈ m.having, item.Valid t
  /-- The ORDER BY list. -/
  orderBy : ∀ item ∈ m.orderBy, item.Valid t

/-! ### Texts and names -/

theorem trimChars_eq_nil_iff {cs : List Char} : trimChars cs = [] ↔ Blank cs := by
  unfold trimChars trimEndChars trimStartChars
  rw [List.reverse_eq_nil_iff, List.dropWhile_eq_nil_iff]
  simp only [List.mem_reverse]
  constructor
  · -- Blanks at the start are blanks, and what stands behind them is cut off at the end.
    intro h c hc
    rw [← List.takeWhile_append_dropWhile (p := isBlank) (l := cs), List.mem_append] at hc
    exact hc.elim List.mem_takeWhile_imp (h c)
  · exact fun h c hc => h c (List.dropWhile_subset _ hc)

theorem trim_eq_empty_iff {s : String} : trim s = "" ↔ Blank s.toList := by
  rw [trim, String.ofList_eq_empty_iff, trimChars_eq_nil_iff]

theorem nonBlank_of_blank {s : String} (h : Blank s.toList) : nonBlank s = none := by
  rw [nonBlank, trim_eq_empty_iff.2 h]
  rfl

theorem nonBlank_of_not_blank {s : String} (h : ¬ Blank s.toList) :
    nonBlank s = some (trim s) := by
  have hne : (trim s).isEmpty = false := by
    rw [← Bool.not_eq_true, String.isEmpty_iff, trim_eq_empty_iff]
    exact h
  rw [nonBlank]
  simp only [hne, Bool.false_eq_true, if_false]

theorem filled_eq_none_iff {field : Option String} : Scope.filled field = none ↔ Missing field := by
  cases field with
  | none => exact iff_of_true rfl (by rintro text ⟨⟩)
  | some text =>
    rw [Scope.filled, Option.bind_some, Missing]
    simp only [Option.some.injEq, forall_eq']
    by_cases h : Blank text.toList
    · exact iff_of_true (nonBlank_of_blank h) h
    · rw [nonBlank_of_not_blank h]
      exact iff_of_false (Option.some_ne_none _) h

theorem filled_eq_some_iff {field : Option String} {name : String} :
    Scope.filled field = some name ↔ Names field name := by
  cases field with
  | none => exact iff_of_false (by rintro ⟨⟩) (by rintro ⟨_, ⟨⟩, _⟩)
  | some text =>
    rw [Scope.filled, Option.bind_some, Names]
    simp only [Option.some.injEq, exists_eq_left']
    by_cases h : Blank text.toList
    · rw [nonBlank_of_blank h]
      exact iff_of_false (Option.some_ne_none _).symm fun hn => hn.1 h
    · rw [nonBlank_of_not_blank h, Option.some.injEq]
      exact (and_iff_right h).symm

/-! ### Values -/

theorem exists_castUnwrapped_iff {c : Column} {v : Json} (hv : v ≠ .null) :
    (∃ b, castUnwrapped c (unwrap v) = .ok b) ↔ c.Accepts v := by
  unfold castUnwrapped
  constructor
  · rintro ⟨b, hb⟩
    split at hb
    · rename_i hnumeric
      split at hb
      · exact .number hnumeric ‹_›
      · cases hb
    rename_i hnumeric
    rw [Bool.not_eq_true] at hnumeric
    split at hb
    · rename_i hdate
      cases v with
      | string text => exact .date text hnumeric hdate
      | _ => cases hb
    · rename_i hdate
      exact .other v hnumeric (Bool.not_eq_true _ ▸ hdate)
  · intro h
    cases h with
    | null => exact absurd rfl hv
    | number hnumeric hnumber => exact ⟨_, by rw [if_pos hnumeric, hnumber]⟩
    | date text hnumeric hdate =>
      rw [hnumeric, hdate]
      exact ⟨_, rfl⟩
    | other _ hnumeric hdate =>
      rw [hnumeric, hdate]
      exact ⟨_, rfl⟩

/-- The values that can be cast for a column are those that it accepts. -/
theorem exists_castValue_iff {c : Column} {v : Json} :
    (∃ b, castValue c v = .ok b) ↔ c.Accepts v := by
  by_cases hv : v = .null
  · subst hv
    exact iff_of_true ⟨.null, rfl⟩ .null
  · rw [castValue]
    · exact exists_castUnwrapped_iff hv
    · exact hv

theorem exists_castAll_iff {c : Column} {values : List Json} :
    (∃ bs, Scope.castAll c values = .ok bs) ↔ ∀ v ∈ values, c.Accepts v := by
  simp only [Scope.castAll, mapError_eq_ok_iff, exists_mapM_eq_ok_iff, exists_castValue_iff]

theorem exists_castNumber_iff {what : String} {v : Json} :
    (∃ b, castNumber what v = .ok b) ↔ ∃ n, toNumber? v = some n := by
  unfold castNumber
  cases toNumber? v <;> simp

/-! ### Entries -/

namespace Scope

variable {s : Scope}

theorem column_eq_ok_iff {clause name : String} {c : Column} :
    s.column clause name = .ok c ↔ s.table.get? name = some c := by
  rw [column, mapError_eq_ok_iff, Table.column]
  cases s.table.get? name <;> simp

theorem exists_column_iff {clause name : String} :
    (∃ c, s.column clause name = .ok c) ↔ s.table.Has name :=
  exists_congr fun _ => column_eq_ok_iff

theorem exists_columnRef_iff {clause name : String} :
    (∃ sql, s.columnRef clause name = .ok sql) ↔ name = "*" ∨ s.table.Has name := by
  unfold columnRef
  split
  · exact iff_of_true ⟨_, rfl⟩ (.inl ‹_›)
  · rw [exists_map_eq_ok_iff, exists_column_iff]
    exact (or_iff_right ‹_›).symm

theorem exists_tableRef_iff {name : String} :
    (∃ sql, s.tableRef name = .ok sql) ↔ ∀ part ∈ name.toList.splitOn '.', ¬ Blank part := by
  have hparts : (tableParts name).any String.isEmpty = true ↔
      ∃ part ∈ name.toList.splitOn '.', Blank part := by
    simp only [tableParts, List.any_map, List.any_eq_true, Function.comp_apply,
      String.isEmpty_iff, String.ofList_eq_empty_iff, trimChars_eq_nil_iff]
  unfold tableRef
  split
  · rename_i h
    obtain ⟨part, hpart, hblank⟩ := hparts.1 h
    exact iff_of_false not_exists_error fun hall => hall part hpart hblank
  · rename_i h
    exact iff_of_true ⟨_, rfl⟩ fun part hpart hblank => h (hparts.2 ⟨part, hpart, hblank⟩)

/-- What looking a name up gives, whatever the clause. -/
theorem column_cases (s : Scope) (clause name : String) :
    (∃ c, s.column clause name = .ok c ∧ s.table.Has name ∧
      (s.table.HasNumeric name ↔ c.isNumeric = true)) ∨
    ∃ fault, s.column clause name = .error fault ∧ ¬ s.table.Has name ∧
      ¬ s.table.HasNumeric name := by
  cases h : s.column clause name with
  | ok c =>
    have hget := column_eq_ok_iff.1 h
    exact .inl ⟨c, rfl, ⟨c, hget⟩, by simp [Table.HasNumeric, hget]⟩
  | error fault =>
    have hhas : ¬ s.table.Has name := by
      rw [← @exists_column_iff s clause, h]
      exact not_exists_error
    exact .inr ⟨fault, rfl, hhas, fun hn => hhas (hn.imp fun _ hc => hc.1)⟩

/-- What there is of an aggregate in a SELECT list. -/
theorem exists_aggregateArgument_iff {function : Aggregate} {field : Option String}
    {distinct : Bool} :
    (∃ sql, s.aggregateArgument function field distinct = .ok sql) ↔
      function = .count ∧ (field = none ∨ field = some "*" ∨
          ∃ name, field = some name ∧ s.table.Has name) ∨
        function ≠ .count ∧ ∃ name, field = some name ∧
          if function.requiresNumeric then s.table.HasNumeric name else s.table.Has name := by
  cases field with
  | none => cases function <;> simp [aggregateArgument]
  | some name =>
    obtain ⟨c, hcolumn, hhas, hnumeric⟩ | ⟨fault, hcolumn, hhas, hnumeric⟩ :=
      s.column_cases "aggregate " name
    · cases function with
      | count =>
        by_cases hstar : name = "*" <;>
          simp [aggregateArgument, columnRef, hstar, hcolumn, hhas, Except.map]
      | min | max => simp [aggregateArgument, Aggregate.requiresNumeric, hcolumn, hhas]
      | sum | avg =>
        by_cases hn : c.isNumeric = true <;>
          simp [aggregateArgument, Aggregate.requiresNumeric, hcolumn, hnumeric, hn]
    · cases function with
      | count =>
        by_cases hstar : name = "*" <;>
          simp [aggregateArgument, columnRef, hstar, hcolumn, hhas, Except.map]
      | _ => simp [aggregateArgument, Aggregate.requiresNumeric, hcolumn, hhas, hnumeric]

/-- What there is of an aggregate in a condition on groups of rows. -/
theorem exists_havingAggregate_iff {function : Aggregate} {field : Option String} :
    (∃ sql, s.havingAggregate function field = .ok sql) ↔
      function = .count ∧ (field = none ∨ field = some "*" ∨
          ∃ name, field = some name ∧ s.table.Has name) ∨
        function ≠ .count ∧ ∃ name, field = some name ∧ s.table.HasNumeric name := by
  cases field with
  | none => cases function <;> simp [havingAggregate]
  | some name =>
    obtain ⟨c, hcolumn, hhas, hnumeric⟩ | ⟨fault, hcolumn, hhas, hnumeric⟩ :=
      s.column_cases "HAVING " name
    · cases function with
      | count =>
        by_cases hstar : name = "*" <;>
          simp [havingAggregate, hstar, hcolumn, hhas, Except.map]
      | _ =>
        by_cases hn : c.isNumeric = true <;> simp [havingAggregate, hcolumn, hnumeric, hn]
    · cases function with
      | count =>
        by_cases hstar : name = "*" <;>
          simp [havingAggregate, hstar, hcolumn, hhas, Except.map]
      | _ => simp [havingAggregate, hcolumn, hnumeric]

/-- What fails for a blank SQL text and for no other is there unless the text is blank. -/
theorem exists_ok_iff_not_blank {α : Type} {sql : String} {answer : Except ClauseFault α}
    (hnone : nonBlank sql = none → ∃ fault, answer = .error fault)
    (hsome : ∀ e, nonBlank sql = some e → ∃ a, answer = .ok a) :
    (∃ a, answer = .ok a) ↔ ¬ Blank sql.toList := by
  by_cases h : Blank sql.toList
  · obtain ⟨fault, rfl⟩ := hnone (nonBlank_of_blank h)
    exact iff_of_false not_exists_error fun hn => hn h
  · exact iff_of_true (hsome _ (nonBlank_of_not_blank h)) h

theorem exists_selectItem_iff {item : SelectItem} :
    (∃ sql, s.selectItem item = .ok sql) ↔ item.Valid s.table := by
  cases item with
  | column name label =>
    rw [selectItem, exists_map_eq_ok_iff, exists_columnRef_iff]
    rfl
  | aggregate function field distinct label =>
    rw [selectItem, exists_map_eq_ok_iff, exists_aggregateArgument_iff]
    simp only [SelectItem.Valid, Table.Countable, filled_eq_none_iff, filled_eq_some_iff]
  | custom expression label =>
    exact exists_ok_iff_not_blank (fun h => ⟨_, by rw [selectItem, h]⟩)
      fun e h => ⟨_, by rw [selectItem, h]⟩

theorem exists_membership_iff {c : Column} {values : List Json} {negated : Bool} :
    (∃ f, s.membership c values negated = .ok f) ↔
      values ≠ [] ∧ ∀ v ∈ values, c.Accepts v := by
  unfold membership
  split
  · rename_i h
    exact iff_of_false not_exists_error fun hn => hn.1 (List.isEmpty_iff.1 h)
  · rename_i h
    rw [exists_map_eq_ok_iff, exists_castAll_iff]
    exact (and_iff_right (mt List.isEmpty_iff.2 h)).symm

theorem exists_range_iff {c : Column} {values : List Json} {negated : Bool} :
    (∃ f, s.range c values negated = .ok f) ↔
      values.length = 2 ∧ ∀ v ∈ values, c.Accepts v := by
  unfold range
  split
  · rename_i h
    rw [exists_map_eq_ok_iff, exists_castAll_iff]
    exact (and_iff_right h).symm
  · rename_i h
    exact iff_of_false not_exists_error fun hn => h hn.1

theorem exists_comparison_iff {c : Column} {symbol : String} {value : Json} :
    (∃ f, s.comparison c symbol value = .ok f) ↔ c.Accepts value := by
  rw [← exists_castValue_iff, comparison]
  cases castValue c value <;> simp

theorem exists_pattern_iff {c : Column} {negated : Bool} {text : String} :
    (∃ f, s.pattern c negated text = .ok f) ↔ c.isString = true := by
  unfold pattern
  split <;> simp_all

theorem exists_test_iff {c : Column} {operator : Operator} {value : Json} {values : List Json} :
    (∃ f, s.test c operator value values = .ok f) ↔ operator.Needs c value values := by
  cases operator with
  | equal | notEqual | greater | less | greaterEqual | lessEqual => exact exists_comparison_iff
  | like | notLike | contains => exact exists_pattern_iff
  | inList | notInList => exact exists_membership_iff
  | between | notBetween => exact exists_range_iff
  | isNull | isNotNull => exact iff_of_true ⟨_, rfl⟩ trivial

/-- A condition on a column passes its test if there is one of that name. -/
theorem exists_onColumn_iff {clause name : String} {f : Column → Except ClauseFault Fragment}
    {P : Column → Prop} (hf : ∀ c, (∃ fragment, f c = .ok fragment) ↔ P c) :
    (∃ fragment, (s.column clause name >>= f) = .ok fragment) ↔
      ∃ c, s.table.get? name = some c ∧ P c := by
  simp only [exists_bind_eq_ok_iff, column_eq_ok_iff, hf]

theorem exists_condition_iff {c : Condition} :
    (∃ f, s.condition c = .ok f) ↔ c.Valid s.table := by
  -- A sentinel leaves no condition, so nothing else of it is looked at.
  have hactive : (∃ f, s.condition c = .ok f) ↔
      isSuppressed c = true ∨ ∃ f, s.activeCondition c = .ok f := by
    unfold condition
    split <;> simp_all
  rw [hactive]
  cases c with
  | test name operator value values =>
    rw [activeCondition, exists_onColumn_iff fun _ => exists_test_iff, isSuppressed,
      decide_eq_true_iff]
    rfl
  | membership negated name values =>
    rw [activeCondition, exists_onColumn_iff fun _ => exists_membership_iff, isSuppressed,
      decide_eq_true_iff]
    rfl
  | range negated name values =>
    rw [activeCondition, exists_onColumn_iff fun _ => exists_range_iff, isSuppressed,
      decide_eq_true_iff]
    rfl
  | subquery negated sql =>
    rw [isSuppressed, decide_eq_true_iff, exists_ok_iff_not_blank
      (fun h => ⟨_, by rw [activeCondition, h]⟩) fun e h => ⟨_, by rw [activeCondition, h]⟩]
    rfl
  | expression sql =>
    rw [isSuppressed, decide_eq_true_iff, exists_ok_iff_not_blank
      (fun h => ⟨_, by rw [activeCondition, h]⟩) fun e h => ⟨_, by rw [activeCondition, h]⟩]
    rfl

theorem exists_groupItem_iff {item : GroupItem} :
    (∃ sql, s.groupItem item = .ok sql) ↔ item.Valid s.table := by
  cases item with
  | column name => exact exists_map_eq_ok_iff.trans exists_column_iff
  | expression sql =>
    exact exists_ok_iff_not_blank (fun h => ⟨_, by rw [groupItem, h]⟩)
      fun e h => ⟨_, by rw [groupItem, h]⟩

theorem exists_orderItem_iff {item : OrderItem} :
    (∃ sql, s.orderItem item = .ok sql) ↔ item.Valid s.table := by
  cases item with
  | column name direction => exact exists_map_eq_ok_iff.trans exists_column_iff
  | expression sql direction =>
    refine exists_ok_iff_not_blank (fun h => ⟨_, by rw [orderItem, h]⟩) fun e h => ?_
    cases direction <;> exact ⟨_, by rw [orderItem, h]⟩

/-- The operators that compare are the six comparisons. -/
theorem comparison?_eq_none_iff {operator : Operator} :
    operator.comparison? = none ↔
      operator ∉ [.equal, .notEqual, .greater, .less, .greaterEqual, .lessEqual] := by
  cases operator <;> decide

theorem exists_havingItem_iff {item : HavingItem} :
    (∃ f, s.havingItem item = .ok f) ↔ item.Valid s.table := by
  cases item with
  | expression sql =>
    exact exists_ok_iff_not_blank (fun h => ⟨_, by rw [havingItem, h]⟩)
      fun e h => ⟨_, by rw [havingItem, h]⟩
  | aggregate function field operator value =>
    have haggregate : (∃ sql, s.havingAggregate function (filled field) = .ok sql) ↔
        function = .count ∧ s.table.Countable field ∨
          function ≠ .count ∧ ∃ name, Names field name ∧ s.table.HasNumeric name := by
      simp only [exists_havingAggregate_iff, Table.Countable, filled_eq_none_iff,
        filled_eq_some_iff]
    rw [HavingItem.Valid, ← haggregate,
      ← @exists_castNumber_iff ("HAVING " ++ function.name), havingItem]
    cases hsymbol : operator.comparison? with
    | none => exact iff_of_false not_exists_error fun h => comparison?_eq_none_iff.1 hsymbol h.1
    | some symbol =>
      have hoperator := mt comparison?_eq_none_iff.2 (hsymbol ▸ Option.some_ne_none symbol)
      rw [and_iff_right (not_not.1 hoperator)]
      cases s.havingAggregate function (filled field) <;>
        cases castNumber ("HAVING " ++ function.name) value <;> simp

/-! ### Clauses -/

/-- A clause without entries is there; any other is there if all its entries are. -/
theorem exists_clause_iff {α β γ : Type} {items : List α} {f : α → Except ClauseFault β}
    {whole : List β → γ} {none : γ} :
    (∃ clause, (if items.isEmpty then Except.ok none else (items.mapM f).map whole) =
      .ok clause) ↔ ∀ item ∈ items, ∃ part, f item = .ok part := by
  cases items with
  | nil => exact iff_of_true ⟨_, rfl⟩ (List.forall_mem_nil _)
  | cons item items =>
    rw [List.isEmpty_cons, if_neg Bool.false_ne_true, exists_map_eq_ok_iff, exists_mapM_eq_ok_iff]

theorem exists_select_iff {items : List SelectItem} :
    (∃ sql, s.select items = .ok sql) ↔ ∀ item ∈ items, item.Valid s.table := by
  simp only [select, exists_clause_iff, exists_selectItem_iff]

theorem exists_whereClause_iff {groups : List Group} :
    (∃ f, s.whereClause groups = .ok f) ↔
      ∀ g ∈ groups, ∀ c ∈ g.conditions, c.Valid s.table := by
  simp only [whereClause, group?, exists_map_eq_ok_iff, exists_mapM_eq_ok_iff,
    exists_condition_iff]

theorem exists_groupBy_iff {items : List GroupItem} :
    (∃ sql, s.groupBy items = .ok sql) ↔ ∀ item ∈ items, item.Valid s.table := by
  simp only [groupBy, exists_clause_iff, exists_groupItem_iff]

theorem exists_having_iff {items : List HavingItem} :
    (∃ f, s.having items = .ok f) ↔ ∀ item ∈ items, item.Valid s.table := by
  simp only [having, exists_clause_iff, exists_havingItem_iff]

theorem exists_orderBy_iff {items : List OrderItem} :
    (∃ sql, s.orderBy items = .ok sql) ↔ ∀ item ∈ items, item.Valid s.table := by
  simp only [orderBy, exists_clause_iff, exists_orderItem_iff]

/-- A model compiles exactly if it is valid, whatever the dialect. -/
theorem exists_query_iff (s : Scope) (table : String) (m : QueryModel) :
    (∃ f, s.query table m = .ok f) ↔ m.Valid s.table table := by
  have hclauses : (∃ f, s.query table m = .ok f) ↔
      (∃ sql, s.select m.select = .ok sql) ∧ (∃ sql, s.tableRef table = .ok sql) ∧
        (∃ f, s.whereClause m.filters = .ok f) ∧ (∃ sql, s.groupBy m.groupBy = .ok sql) ∧
        (∃ f, s.having m.having = .ok f) ∧ ∃ sql, s.orderBy m.orderBy = .ok sql := by
    simp only [query, exists_bind_eq_ok_iff, pure, Except.pure, Except.ok.injEq, exists_eq',
      and_true, exists_and_right]
  rw [hclauses, exists_select_iff, exists_tableRef_iff, exists_whereClause_iff, exists_groupBy_iff,
    exists_having_iff, exists_orderBy_iff]
  -- The SELECT list is read before the name of the table.
  constructor
  · rintro ⟨hselect, htable, hfilters, hgroupBy, hhaving, horderBy⟩
    exact ⟨htable, hselect, hfilters, hgroupBy, hhaving, horderBy⟩
  · rintro ⟨htable, hselect, hfilters, hgroupBy, hhaving, horderBy⟩
    exact ⟨hselect, htable, hfilters, hgroupBy, hhaving, horderBy⟩

end Scope

end BoundQuery
