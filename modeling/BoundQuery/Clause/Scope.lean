import BoundQuery.Clause.Cast
import BoundQuery.Clause.Dialect
import BoundQuery.Clause.Fault
import BoundQuery.Query.Model
import BoundQuery.Template.Binding

/-!
# Names and SELECT lists

A `Scope` is what clauses are compiled against: the columns of a table and a dialect.

* `Scope.tableRef`: the name of a table, perhaps with a schema before it.
* `Scope.columnRef`: a column, or `*`.
* `Scope.select`: a SELECT list.
-/

namespace BoundQuery

open Text

/-- What clauses are compiled against. -/
structure Scope where
  /-- The columns of the table. -/
  table : Table
  /-- The dialect. -/
  dialect : Dialect

namespace Scope

/-- A name in the quotes of the dialect. -/
def quote (s : Scope) (name : String) : String := s.dialect.quote name

/-- The column of a name, used in a clause. -/
def column (s : Scope) (clause name : String) : Except ClauseFault Column :=
  (s.table.column clause name).mapError .column

/-- The parts of a name between points, without the blanks around them. -/
def tableParts (name : String) : List String :=
  (name.toList.splitOn '.').map fun part => String.ofList (trimChars part)

/-- The reference to a table whose name may have several parts, none of them blank. -/
def tableRef (s : Scope) (name : String) : Except ClauseFault String :=
  if (tableParts name).any String.isEmpty then .error (.table name)
  else .ok (".".intercalate ((tableParts name).map s.quote))

/-- The reference to a column; `*` stays as it is. -/
def columnRef (s : Scope) (clause name : String) : Except ClauseFault String :=
  if name = "*" then .ok "*" else (s.column clause name).map fun c => s.quote c.name

/-- The text of an optional field, unless it is blank. -/
def filled (text : Option String) : Option String := text.bind nonBlank

/-! ### SELECT -/

/-- An expression under an optional alias. -/
def aliased (s : Scope) (expression : String) (label : Option String) : String :=
  match filled label with
  | some a => expression ++ " AS " ++ s.quote a
  | none => expression

/-- The argument of an aggregate. Only COUNT does without a column; SUM and AVG want numbers, and
take them with two decimal places. -/
def aggregateArgument (s : Scope) (function : Aggregate) (field : Option String)
    (distinct : Bool) : Except ClauseFault String :=
  let distinct := if distinct then "DISTINCT " else ""
  match function, field with
  | .count, none => .ok "*"
  | .count, some f =>
    if f = "*" then .ok "*" else (s.columnRef "aggregate " f).map (distinct ++ ·)
  | function, none => .error (.fieldRequired function)
  | function, some f =>
    match s.column "aggregate " f with
    | .error fault => .error fault
    | .ok c =>
      if function.requiresNumeric then
        if c.isNumeric then .ok (distinct ++ s.dialect.decimalCast (s.quote c.name))
        else .error (.notNumeric function f)
      else .ok (distinct ++ s.quote c.name)

/-- The alias of an aggregate that names none: the function and the column, or `all`. -/
def aggregateAlias (function : Aggregate) (field : Option String) : String :=
  lower function.name ++ "_" ++
    match field with
    | some f => if f = "*" then "all" else f
    | none => "all"

/-- A SELECT entry. -/
def selectItem (s : Scope) : SelectItem → Except ClauseFault String
  | .column name label =>
    (s.columnRef "" name).map fun c => if c = "*" then c else s.aliased c label
  | .aggregate function field distinct label =>
    (s.aggregateArgument function (filled field) distinct).map fun argument =>
      function.name ++ "(" ++ argument ++ ") AS " ++
        s.quote ((filled label).getD (aggregateAlias function (filled field)))
  | .custom expression label =>
    match nonBlank expression with
    | none => .error .customRequired
    | some e => .ok (s.aliased e label)

/-- A SELECT list; an empty one selects all columns. -/
def select (s : Scope) (items : List SelectItem) : Except ClauseFault String :=
  if items.isEmpty then .ok "*" else (items.mapM s.selectItem).map (", ".intercalate ·)

end Scope

end BoundQuery
