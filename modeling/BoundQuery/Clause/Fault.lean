import BoundQuery.Query.Words
import BoundQuery.Schema.Table
import BoundQuery.Template.Parameter

/-!
# Why a query model does not compile
-/

namespace BoundQuery

/-- Why a clause of a query model does not compile. -/
inductive ClauseFault where
  /-- A name that no column has. -/
  | column (fault : UnknownColumn)
  /-- A value that does not fit its column. -/
  | value (fault : ValueFault)
  /-- A name of a table with an empty part. -/
  | table (name : String)
  /-- A custom SELECT entry without text. -/
  | customRequired
  /-- An aggregate without a column. -/
  | fieldRequired (function : Aggregate)
  /-- An aggregate of numbers over a column of something else. -/
  | notNumeric (function : Aggregate) (field : String)
  /-- A pattern for a column that holds no texts. -/
  | notString (column : String)
  /-- A list test without values. -/
  | valuesRequired (keyword : String)
  /-- A range test with another number of values than two. -/
  | twoValuesRequired (keyword : String) (count : Nat)
  /-- A subquery test without a subquery. -/
  | subqueryRequired (keyword : String)
  /-- An entry of the given clause without an expression. -/
  | expressionRequired (clause : String)
  /-- A test of an aggregate that is no comparison. -/
  | havingOperator (operator : Operator)
  /-- A test of an aggregate without a column. -/
  | havingFieldRequired (function : Aggregate)
  /-- A test of an aggregate over a column that holds no numbers. -/
  | havingNotNumeric (function : Aggregate)
  /-- A condition on groups of rows without text. -/
  | havingRequired

/-- The text of the fault. -/
def ClauseFault.message : ClauseFault → String
  | .column fault => fault.message
  | .value fault => "Invalid value: " ++ fault.message
  | .table name => "Invalid table name \"" ++ name ++ "\""
  | .customRequired => "Custom SQL expression is required"
  | .fieldRequired f => f.name ++ " requires a field"
  | .notNumeric f c => "Cannot " ++ f.name ++ " on non-numeric column \"" ++ c ++ "\""
  | .notString c => "LIKE only allowed on string column \"" ++ c ++ "\""
  | .valuesRequired k => k ++ " requires values"
  | .twoValuesRequired k n => k ++ " requires exactly 2 values, got " ++ toString n
  | .subqueryRequired k => k ++ " requires a subquery"
  | .expressionRequired c => "Expression required for " ++ c
  | .havingOperator o => "Unsupported HAVING operator: " ++ o.name
  | .havingFieldRequired f => "HAVING " ++ f.name ++ " requires a column"
  | .havingNotNumeric f => "HAVING " ++ f.name ++ " requires numeric column"
  | .havingRequired => "HAVING expression is required"

end BoundQuery
