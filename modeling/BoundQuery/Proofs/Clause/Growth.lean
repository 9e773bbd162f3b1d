import BoundQuery.Proofs.Clause.Comparison
import BoundQuery.Proofs.Clause.Valid

/-!
# Tables that grow

A table may get more columns while models that were written for it stay in use.

* `Table.Extends` : a table has all columns of another one, each with what is known of it;
* `QueryModel.lookups` : the names that a model looks up;
* `Scope.exists_query_extends_iff` : **a model compiles for the smaller table exactly if it compiles
  for the larger one and looks up nothing that the smaller one lacks**;
* `Comparison.ofTables` : a query that compiles for the smaller table compiles to the same for the
  larger one;
* `Scope.query_extends_iff` : so **more columns never change a query that compiles, and a query that
  compiles for the larger table compiles to the same for the smaller one if all names that it looks
  up are there.**
-/

namespace BoundQuery

/-! ### Tables and names -/

/-- Whether a table has all columns of another one, each with what is known of it. -/
def Table.Extends (larger smaller : Table) : Prop :=
  ∀ name c, smaller.get? name = some c → larger.get? name = some c

/-- The name that an aggregate looks up: none if it has none, and none if it counts rows. -/
def Aggregate.lookups (function : Aggregate) (field : Option String) : List String :=
  match Scope.filled field with
  | none => []
  | some name => if function = .count ∧ name = "*" then [] else [name]

/-- The name of a column where `*` is none. -/
def nameLookups (name : String) : List String := if name = "*" then [] else [name]

/-- The names that an entry of a SELECT list looks up. -/
def SelectItem.lookups : SelectItem → List String
  | .column name _ => nameLookups name
  | .aggregate function field _ _ => function.lookups field
  | .custom _ _ => []

/-- The names that a condition on rows looks up. -/
def Condition.lookups : Condition → List String
  | .test name _ _ _ => nameLookups name
  | .membership _ name _ => nameLookups name
  | .range _ name _ => nameLookups name
  | .subquery _ _ => []
  | .expression _ => []

/-- The names that a GROUP BY entry looks up. -/
def GroupItem.lookups : GroupItem → List String
  | .column name => [name]
  | .expression _ => []

/-- The names that a condition on groups of rows looks up. -/
def HavingItem.lookups : HavingItem → List String
  | .aggregate function field _ _ => function.lookups field
  | .expression _ => []

/-- The names that an ORDER BY entry looks up. -/
def OrderItem.lookups : OrderItem → List String
  | .column name _ => [name]
  | .expression _ _ => []

/-- The names that a model looks up, clause by clause. -/
def QueryModel.lookups (m : QueryModel) : List String :=
  m.select.flatMap SelectItem.lookups ++
    m.filters.flatMap (fun g => g.conditions.flatMap Condition.lookups) ++
    m.groupBy.flatMap GroupItem.lookups ++ m.having.flatMap HavingItem.lookups ++
    m.orderBy.flatMap OrderItem.lookups

/-! ### What is valid for the smaller table -/

section

variable {larger smaller : Table} {P Q : Column → Prop}

/-- Whether a table has all names of a list. -/
def Table.HasAll (t : Table) (names : List String) : Prop := ∀ name ∈ names, t.Has name

theorem Table.hasAll_nil (t : Table) : t.HasAll [] := List.forall_mem_nil _

theorem Table.hasAll_singleton {t : Table} {name : String} : t.HasAll [name] ↔ t.Has name :=
  List.forall_mem_singleton

theorem Table.hasAll_append {t : Table} {xs ys : List String} :
    t.HasAll (xs ++ ys) ↔ t.HasAll xs ∧ t.HasAll ys := List.forall_mem_append

theorem Table.hasAll_flatMap {α : Type} {t : Table} {f : α → List String} {xs : List α} :
    t.HasAll (xs.flatMap f) ↔ ∀ x ∈ xs, t.HasAll (f x) := by
  simp only [HasAll, List.mem_flatMap, forall_exists_index, and_imp]
  exact ⟨fun h x hx name hname => h name x hx hname, fun h name x hx => h x hx name⟩

/-- A column of the smaller table is one of the larger one whose name the smaller one has. -/
theorem Table.Extends.exists_column_iff (h : larger.Extends smaller) {name : String} :
    (∃ c, smaller.get? name = some c ∧ P c) ↔
      (∃ c, larger.get? name = some c ∧ P c) ∧ smaller.Has name := by
  constructor
  · rintro ⟨c, hc, hp⟩
    exact ⟨⟨c, h name c hc, hp⟩, c, hc⟩
  · rintro ⟨⟨c, hc, hp⟩, d, hd⟩
    obtain rfl : c = d := Option.some.inj (hc.symm.trans (h name d hd))
    exact ⟨c, hd, hp⟩

theorem Table.Extends.has_iff (h : larger.Extends smaller) {name : String} :
    smaller.Has name ↔ larger.Has name ∧ smaller.Has name :=
  ⟨fun hs => ⟨hs.imp (h name), hs⟩, And.right⟩

theorem Table.Extends.hasNumeric_iff (h : larger.Extends smaller) {name : String} :
    smaller.HasNumeric name ↔ larger.HasNumeric name ∧ smaller.Has name := h.exists_column_iff

/-- Where `*` is no column, what holds of it does not depend on the table. -/
theorem nameLookups_iff {name : String} {p q : Prop} (h : p ↔ q ∧ smaller.Has name) :
    name = "*" ∨ p ↔ (name = "*" ∨ q) ∧ smaller.HasAll (nameLookups name) := by
  unfold nameLookups
  split
  · rename_i hstar
    simp [hstar, Table.hasAll_nil]
  · rename_i hstar
    rw [or_iff_right hstar, or_iff_right hstar, Table.hasAll_singleton, h]

/-- An aggregate that needs a column of some kind, except if it counts rows. -/
theorem aggregate_iff {function : Aggregate} {field : Option String} {p q : String → Prop}
    (h : larger.Extends smaller) (hp : ∀ name, p name ↔ q name ∧ smaller.Has name) :
    (function = .count ∧ smaller.Countable field ∨
        function ≠ .count ∧ ∃ name, Names field name ∧ p name) ↔
      (function = .count ∧ larger.Countable field ∨
        function ≠ .count ∧ ∃ name, Names field name ∧ q name) ∧
      smaller.HasAll (function.lookups field) := by
  simp only [Table.Countable, ← filled_eq_none_iff, ← filled_eq_some_iff, Aggregate.lookups]
  cases Scope.filled field with
  | none => simp [Table.hasAll_nil]
  | some name =>
    by_cases hcount : function = .count
    · by_cases hstar : name = "*"
      · simp [hcount, hstar, Table.hasAll_nil]
      · simp only [hcount, hstar, and_false, if_false, Table.hasAll_singleton]
        simp [hstar, ← h.has_iff]
    · simp [hcount, Table.hasAll_singleton, hp]

theorem SelectItem.valid_iff (h : larger.Extends smaller) (item : SelectItem) :
    item.Valid smaller ↔ item.Valid larger ∧ smaller.HasAll item.lookups := by
  cases item with
  | column name label => exact nameLookups_iff h.has_iff
  | aggregate function field distinct label =>
    refine aggregate_iff h fun name => ?_
    split
    · exact h.hasNumeric_iff
    · exact h.has_iff
  | custom sql label => exact (and_iff_left (Table.hasAll_nil _)).symm

theorem Condition.valid_iff (h : larger.Extends smaller) (c : Condition) :
    c.Valid smaller ↔ c.Valid larger ∧ smaller.HasAll c.lookups := by
  cases c with
  | test name operator value values => exact nameLookups_iff h.exists_column_iff
  | membership negated name values => exact nameLookups_iff h.exists_column_iff
  | range negated name values => exact nameLookups_iff h.exists_column_iff
  | subquery negated sql => exact (and_iff_left (Table.hasAll_nil _)).symm
  | expression sql => exact (and_iff_left (Table.hasAll_nil _)).symm

theorem GroupItem.valid_iff (h : larger.Extends smaller) (item : GroupItem) :
    item.Valid smaller ↔ item.Valid larger ∧ smaller.HasAll item.lookups := by
  cases item with
  | column name => exact h.has_iff.trans (and_congr_right fun _ => Table.hasAll_singleton.symm)
  | expression sql => exact (and_iff_left (Table.hasAll_nil _)).symm

theorem HavingItem.valid_iff (h : larger.Extends smaller) (item : HavingItem) :
    item.Valid smaller ↔ item.Valid larger ∧ smaller.HasAll item.lookups := by
  cases item with
  | aggregate function field operator value =>
    simp only [HavingItem.Valid, HavingItem.lookups, and_assoc]
    exact and_congr_right fun _ => and_congr_right fun _ =>
      aggregate_iff h fun _ => h.hasNumeric_iff
  | expression sql => exact (and_iff_left (Table.hasAll_nil _)).symm

theorem OrderItem.valid_iff (h : larger.Extends smaller) (item : OrderItem) :
    item.Valid smaller ↔ item.Valid larger ∧ smaller.HasAll item.lookups := by
  cases item with
  | column name direction =>
    exact h.has_iff.trans (and_congr_right fun _ => Table.hasAll_singleton.symm)
  | expression sql direction => exact (and_iff_left (Table.hasAll_nil _)).symm

/-- What holds of the entries of a clause one by one. -/
theorem forall_entries_iff {α : Type} (xs : List α) {p q : α → Prop} {f : α → List String}
    (h : ∀ x, p x ↔ q x ∧ smaller.HasAll (f x)) :
    (∀ x ∈ xs, p x) ↔ (∀ x ∈ xs, q x) ∧ smaller.HasAll (xs.flatMap f) := by
  rw [Table.hasAll_flatMap, ← forall₂_and]
  exact forall₂_congr fun x _ => h x

end

/-! ### Two tables -/

/-- A name that the smaller table has means the same column in the larger one. -/
theorem Table.Extends.agree_column {larger smaller : Table} (h : larger.Extends smaller)
    (d : Dialect) (clause name : String) :
    Agree True False Eq ((Scope.mk smaller d).column clause name)
      ((Scope.mk larger d).column clause name) := by
  cases hs : (Scope.mk smaller d).column clause name with
  | error fault =>
    cases (Scope.mk larger d).column clause name
    · exact .inr (.inl trivial)
    · trivial
  | ok c =>
    have hl : (Scope.mk larger d).column clause name = .ok c :=
      Scope.column_eq_ok_iff.2 (h name c (Scope.column_eq_ok_iff.1 hs))
    rw [hl]
    exact Eq.refl c

/-- Equal values make equal patterns. -/
theorem text_congr {v w : Json} (h : v = w) (before after : String) :
    BindValue.text (before ++ v.text ++ after) = .text (before ++ w.text ++ after) := by
  rw [h]

/-- One model for two tables in one dialect. A fault for the smaller table may stand against
anything, since the larger one may have the column. -/
def Comparison.ofTables {larger smaller : Table} (h : larger.Extends smaller) (d : Dialect) :
    Comparison ⟨smaller, d⟩ ⟨larger, d⟩ where
  left := True
  right := False
  texts := True
  given := Eq
  bound := Eq
  column clause name := h.agree_column d clause name
  spelling _ := ⟨fun _ => rfl, fun _ => rfl, fun _ => rfl⟩
  cast heq c := heq ▸ .refl (castValue c _)
  number heq what := heq ▸ .refl (castNumber what _)
  pattern heq before after := text_congr heq before after

namespace Scope

variable {larger smaller : Table}

/-- A query compiles if each of its clauses does. -/
theorem exists_clauses_iff (s : Scope) (table : String) (m : QueryModel) :
    (∃ f, s.query table m = .ok f) ↔
      (∃ sql, s.select m.select = .ok sql) ∧ (∃ sql, s.tableRef table = .ok sql) ∧
        (∃ f, s.whereClause m.filters = .ok f) ∧ (∃ sql, s.groupBy m.groupBy = .ok sql) ∧
        (∃ f, s.having m.having = .ok f) ∧ ∃ sql, s.orderBy m.orderBy = .ok sql := by
  simp only [query, exists_bind_eq_ok_iff, pure, Except.pure, Except.ok.injEq, exists_eq',
    and_true, exists_and_right]

/-- **A query compiles for the smaller table exactly if it compiles for the larger one and looks up
nothing that the smaller one lacks.** -/
theorem exists_query_extends_iff (h : larger.Extends smaller) (d : Dialect) (table : String)
    (m : QueryModel) :
    (∃ f, (Scope.mk smaller d).query table m = .ok f) ↔
      (∃ f, (Scope.mk larger d).query table m = .ok f) ∧ smaller.HasAll m.lookups := by
  have hselect := forall_entries_iff m.select (SelectItem.valid_iff h)
  have hfilters := forall_entries_iff m.filters fun g =>
    forall_entries_iff g.conditions (Condition.valid_iff h)
  have hgroupBy := forall_entries_iff m.groupBy (GroupItem.valid_iff h)
  have hhaving := forall_entries_iff m.having (HavingItem.valid_iff h)
  have horderBy := forall_entries_iff m.orderBy (OrderItem.valid_iff h)
  simp only [exists_clauses_iff, exists_select_iff, exists_tableRef_iff, exists_whereClause_iff,
    exists_groupBy_iff, exists_having_iff, exists_orderBy_iff, hselect, hfilters, hgroupBy, hhaving,
    horderBy, QueryModel.lookups, Table.hasAll_append]
  constructor
  · rintro ⟨⟨hs, hs'⟩, htable, ⟨hf, hf'⟩, ⟨hg, hg'⟩, ⟨hh, hh'⟩, ho, ho'⟩
    exact ⟨⟨hs, htable, hf, hg, hh, ho⟩, ⟨⟨⟨hs', hf'⟩, hg'⟩, hh'⟩, ho'⟩
  · rintro ⟨⟨hs, htable, hf, hg, hh, ho⟩, ⟨⟨⟨hs', hf'⟩, hg'⟩, hh'⟩, ho'⟩
    exact ⟨⟨hs, hs'⟩, htable, ⟨hf, hf'⟩, ⟨hg, hg'⟩, ⟨hh, hh'⟩, ho, ho'⟩

/-- A query that compiles for the smaller table compiles to the same for the larger one. -/
theorem query_of_extends (h : larger.Extends smaller) {d : Dialect} {table : String}
    {m : QueryModel} {f : Fragment} (hsmaller : (Scope.mk smaller d).query table m = .ok f) :
    (Scope.mk larger d).query table m = .ok f := by
  have hmatches : m.Matches (Comparison.ofTables h d).given m := .refl (fun _ => rfl) m
  have hagree := (Comparison.ofTables h d).agree_query table hmatches
  rw [hsmaller] at hagree
  cases hlarger : (Scope.mk larger d).query table m with
  | error fault =>
    rw [hlarger] at hagree
    exact hagree.elim
  | ok g =>
    rw [hlarger] at hagree
    obtain ⟨htexts, hvalues⟩ : _ ∧ _ := hagree
    have hsql : f.sql = g.sql := htexts trivial
    have hbound : List.Forall₂ Eq f.values g.values := hvalues
    rw [List.forall₂_eq_eq_eq] at hbound
    obtain ⟨sql, values⟩ := f
    obtain ⟨sql', values'⟩ := g
    obtain rfl : sql = sql' := hsql
    obtain rfl : values = values' := hbound
    rfl

/-- **More columns never change a query.**  If a table has all columns of another one, a model
compiles for the smaller table to what it compiles to for the larger one, exactly if it compiles for
the larger one and all names that it looks up are names of columns of the smaller one. -/
theorem query_extends_iff (h : larger.Extends smaller) (d : Dialect) (table : String)
    (m : QueryModel) (f : Fragment) :
    (Scope.mk smaller d).query table m = .ok f ↔
      (Scope.mk larger d).query table m = .ok f ∧
        ∀ name ∈ m.lookups, ∃ c, smaller.get? name = some c := by
  constructor
  · intro hsmaller
    exact ⟨query_of_extends h hsmaller, ((exists_query_extends_iff h d table m).1 ⟨f, hsmaller⟩).2⟩
  · rintro ⟨hlarger, hnames⟩
    obtain ⟨g, hg⟩ := (exists_query_extends_iff h d table m).2 ⟨⟨f, hlarger⟩, hnames⟩
    obtain rfl : f = g := Except.ok.inj (hlarger.symm.trans (query_of_extends h hg))
    exact hg

/-- A column of texts is added in front of one of numbers. A model that counts rows, names the old
column with blanks around it and suppresses a condition compiles to the same for both tables. -/
theorem query_extends_iff_counted :
    Table.Extends ⟨[("A", .typed "A" "CHAR"), ("N", .typed "N" "INTEGER")]⟩
      ⟨[("N", .typed "N" "INTEGER")]⟩ ∧
    (Scope.mk ⟨[("N", .typed "N" "INTEGER")]⟩ .sqlite).query "T"
        ⟨[.aggregate .count (some "*") false (some "C"), .aggregate .max (some " N ") false none],
          [⟨.and, [.test "N" .equal (.string "7") [], .test "*" .isNull .null []]⟩], [], [], [],
          none⟩ =
      .ok ⟨"SELECT COUNT(*) AS \"C\", MAX(\"N\") AS \"max_N\" FROM \"T\" WHERE (\"N\" = ?)",
        [.int 7]⟩ := by
  have hextends : Table.Extends ⟨[("A", .typed "A" "CHAR"), ("N", .typed "N" "INTEGER")]⟩
      ⟨[("N", .typed "N" "INTEGER")]⟩ := by
    intro name c hc
    by_cases hname : "N" = name
    · subst hname
      exact hc
    · simp [Table.get?, Keyed.get?, hname] at hc
  refine ⟨hextends, (query_extends_iff hextends _ _ _ _).2
    ⟨toOption_eq_some_iff.1 (by decide +kernel), fun name hname => ?_⟩⟩
  have hlookups : QueryModel.lookups
      ⟨[.aggregate .count (some "*") false (some "C"), .aggregate .max (some " N ") false none],
        [⟨.and, [.test "N" .equal (.string "7") [], .test "*" .isNull .null []]⟩], [], [], [],
        none⟩ = ["N", "N"] := by decide +kernel
  rw [hlookups] at hname
  obtain rfl : name = "N" := by simpa using hname
  exact ⟨_, rfl⟩

end Scope

end BoundQuery
