import BoundQuery.Query.Words
import BoundQuery.Json.Basic

/-!
# Query models

A declarative SELECT over one table, as data.

* `SelectItem`, `Condition`, `Group`, `GroupItem`, `HavingItem`, `OrderItem`: the entries of the
  clauses.
* `QueryModel`: the whole query.
-/

namespace BoundQuery

/-- An entry of a SELECT list. -/
inductive SelectItem where
  /-- A column, or `*`, under an optional alias. -/
  | column (column : String) (label : Option String)
  /-- An aggregate of a column. -/
  | aggregate (function : Aggregate) (field : Option String) (distinct : Bool)
      (label : Option String)
  /-- An expression in SQL. -/
  | custom (expression : String) (label : Option String)

/-- A condition on rows. Conditions of opposite sense differ in `negated` only. -/
inductive Condition where
  /-- A test of a column; which of `value` and `values` counts depends on the operator. -/
  | test (column : String) (operator : Operator) (value : Json) (values : List Json)
  /-- A column is one of some values, or none of them. -/
  | membership (negated : Bool) (column : String) (values : List Json)
  /-- A column lies between two values, or does not. -/
  | range (negated : Bool) (column : String) (values : List Json)
  /-- A subquery has a row, or has none. -/
  | subquery (negated : Bool) (sql : String)
  /-- A condition in SQL. -/
  | expression (sql : String)

/-- Conditions combined by one connector, which also attaches the group to the one before it. -/
structure Group where
  /-- The connector. -/
  connector : Connector
  /-- The conditions. -/
  conditions : List Condition

/-- An entry of a GROUP BY list. -/
inductive GroupItem where
  /-- A column. -/
  | column (column : String)
  /-- An expression in SQL. -/
  | expression (expression : String)

/-- A condition on groups of rows. -/
inductive HavingItem where
  /-- A comparison of an aggregate with a number. -/
  | aggregate (function : Aggregate) (field : Option String) (operator : Operator) (value : Json)
  /-- A condition in SQL. -/
  | expression (expression : String)

/-- An entry of an ORDER BY list. -/
inductive OrderItem where
  /-- A column. -/
  | column (column : String) (direction : Direction)
  /-- An expression in SQL. -/
  | expression (expression : String) (direction : Option Direction)

/-- A SELECT over one table. -/
structure QueryModel where
  /-- The SELECT list; none means all columns. -/
  select : List SelectItem
  /-- The groups of conditions. -/
  filters : List Group
  /-- The GROUP BY list. -/
  groupBy : List GroupItem
  /-- The conditions on groups of rows. -/
  having : List HavingItem
  /-- The ORDER BY list. -/
  orderBy : List OrderItem
  /-- The greatest number of rows. -/
  limit : Option Int64

end BoundQuery
