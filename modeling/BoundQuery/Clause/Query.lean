import BoundQuery.Clause.Where

/-!
# The other clauses and whole queries

* `Scope.groupBy`, `Scope.having`, `Scope.orderBy`, `Scope.limit`: one clause each.
* `Scope.query`: a whole SELECT over one table. The values of the WHERE clause come before those
  of the HAVING clause.
-/

namespace BoundQuery.Scope

open Text

/-! ### GROUP BY and ORDER BY -/

/-- A GROUP BY entry. -/
def groupItem (s : Scope) : GroupItem → Except ClauseFault String
  | .column name => (s.column "GROUP BY " name).map fun c => s.quote c.name
  | .expression sql =>
    match nonBlank sql with
    | some e => .ok e
    | none => .error (.expressionRequired "GROUP BY")

/-- A GROUP BY clause, or nothing. -/
def groupBy (s : Scope) (items : List GroupItem) : Except ClauseFault String :=
  if items.isEmpty then .ok ""
  else (items.mapM s.groupItem).map fun parts => "GROUP BY " ++ ", ".intercalate parts

/-- An ORDER BY entry. -/
def orderItem (s : Scope) : OrderItem → Except ClauseFault String
  | .column name direction =>
    (s.column "ORDER BY " name).map fun c => s.quote c.name ++ " " ++ direction.name
  | .expression sql direction =>
    match nonBlank sql with
    | some e =>
      match direction with
      | some d => .ok (e ++ " " ++ d.name)
      | none => .ok e
    | none => .error (.expressionRequired "ORDER BY")

/-- An ORDER BY clause, or nothing. -/
def orderBy (s : Scope) (items : List OrderItem) : Except ClauseFault String :=
  if items.isEmpty then .ok ""
  else (items.mapM s.orderItem).map fun parts => "ORDER BY " ++ ", ".intercalate parts

/-! ### HAVING -/

/-- The aggregate of a condition on groups of rows. Only COUNT does without a column, and only it
takes a column that holds no numbers. -/
def havingAggregate (s : Scope) (function : Aggregate) (field : Option String) :
    Except ClauseFault String :=
  match function, field with
  | .count, none => .ok "COUNT(*)"
  | .count, some f =>
    if f = "*" then .ok "COUNT(*)"
    else (s.column "HAVING " f).map fun c => "COUNT(" ++ s.quote c.name ++ ")"
  | function, none => .error (.havingFieldRequired function)
  | function, some f =>
    match s.column "HAVING " f with
    | .error fault => .error fault
    | .ok c =>
      if c.isNumeric then
        .ok (function.name ++ "(" ++ s.dialect.decimalCast (s.quote c.name) ++ ")")
      else .error (.havingNotNumeric function)

/-- A condition on groups of rows. -/
def havingItem (s : Scope) : HavingItem → Except ClauseFault Fragment
  | .aggregate function field operator value =>
    match operator.comparison? with
    | none => .error (.havingOperator operator)
    | some symbol =>
      match s.havingAggregate function (filled field) with
      | .error fault => .error fault
      | .ok expression =>
        match castNumber ("HAVING " ++ function.name) value with
        | .error fault => .error (.value fault)
        | .ok v => .ok ⟨expression ++ " " ++ symbol ++ " ?", [v]⟩
  | .expression sql =>
    match nonBlank sql with
    | some e => .ok (.text e)
    | none => .error .havingRequired

/-- A HAVING clause, or nothing; all its conditions must hold. -/
def having (s : Scope) (items : List HavingItem) : Except ClauseFault Fragment :=
  if items.isEmpty then .ok .empty
  else
    (items.mapM s.havingItem).map fun parts =>
      ⟨"HAVING " ++ " AND ".intercalate (parts.map Fragment.sql), allValues parts⟩

/-! ### Whole queries -/

/-- The clause that limits the number of rows; without a positive limit there is none. -/
def limit (s : Scope) : Option Int64 → String
  | some n => if 0 < n.toInt then s.dialect.rowCap n.toInt.toNat else ""
  | none => ""

/-- The clauses of a query with a blank between them; clauses without text leave no trace. -/
def joinClauses (clauses : List String) : String :=
  " ".intercalate (clauses.filter fun c => !c.isEmpty)

/-- A SELECT over the table of the given name. -/
def query (s : Scope) (table : String) (m : QueryModel) : Except ClauseFault Fragment := do
  let select ← s.select m.select
  let source ← s.tableRef table
  let filter ← s.whereClause m.filters
  let groupBy ← s.groupBy m.groupBy
  let having ← s.having m.having
  let orderBy ← s.orderBy m.orderBy
  return ⟨joinClauses ["SELECT " ++ select, "FROM " ++ source, filter.sql, groupBy, having.sql,
    orderBy, s.limit m.limit], filter.values ++ having.values⟩

end BoundQuery.Scope
