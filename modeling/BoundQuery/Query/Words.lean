import BoundQuery.Text.Blank
import BoundQuery.Text.Case

/-!
# Words of a query model

The closed lists of words that a query model is written with. Each type has a `name`, the word as
it stands in SQL and in written models, and a `read`, which takes any case and blanks around the
word.

* `Aggregate`, `Connector`, `Operator`, `Direction`: the words of clauses.
* `Dialect`: the SQL dialects.
* `WordFault`: a word that is on none of the lists.
-/

namespace BoundQuery

open Text

/-- A word that a list does not hold. Operators are shown as written, the rest as compared. -/
inductive WordFault where
  /-- No aggregate function. -/
  | aggregate (word : String)
  /-- No connector. -/
  | connector (word : String)
  /-- No operator. -/
  | operator (word : String)
  /-- No sort direction. -/
  | direction (word : String)
  /-- No dialect. -/
  | dialect (word : String)
deriving DecidableEq

/-- The text of the fault. -/
def WordFault.message : WordFault → String
  | .aggregate w => "Unsupported aggregate function: " ++ w
  | .connector w => "Unsupported filter type: " ++ w
  | .operator w => "Unsupported operator \"" ++ w ++ "\""
  | .direction w => "Unsupported sort direction: " ++ w
  | .dialect w => "Unknown dialect: " ++ w

/-! ### Aggregate functions -/

/-- An aggregate function. -/
inductive Aggregate where
  /-- The number of rows or of values. -/
  | count
  /-- The sum. -/
  | sum
  /-- The mean. -/
  | avg
  /-- The least value. -/
  | min
  /-- The greatest value. -/
  | max
deriving DecidableEq

namespace Aggregate

/-- The word for the function. -/
def name : Aggregate → String
  | .count => "COUNT"
  | .sum => "SUM"
  | .avg => "AVG"
  | .min => "MIN"
  | .max => "MAX"

/-- Whether the function makes sense for numbers only. -/
def requiresNumeric : Aggregate → Bool
  | .sum => true
  | .avg => true
  | _ => false

/-- Reads the word for a function. -/
def read (s : String) : Except WordFault Aggregate :=
  match upper (trim s) with
  | "COUNT" => .ok .count
  | "SUM" => .ok .sum
  | "AVG" => .ok .avg
  | "MIN" => .ok .min
  | "MAX" => .ok .max
  | other => .error (.aggregate other)

end Aggregate

/-! ### Connectors -/

/-- How conditions combine. -/
inductive Connector where
  /-- All must hold. -/
  | and
  /-- One must hold. -/
  | or
deriving DecidableEq

namespace Connector

/-- The word for the connector. -/
def name : Connector → String
  | .and => "AND"
  | .or => "OR"

/-- Reads the word for a connector. -/
def read (s : String) : Except WordFault Connector :=
  match upper (trim s) with
  | "AND" => .ok .and
  | "OR" => .ok .or
  | other => .error (.connector other)

end Connector

/-! ### Operators -/

/-- A test of a column against a value or a list of values. -/
inductive Operator where
  /-- Equal to the value. -/
  | equal
  /-- Different from the value. -/
  | notEqual
  /-- Greater than the value. -/
  | greater
  /-- Less than the value. -/
  | less
  /-- Greater than or equal to the value. -/
  | greaterEqual
  /-- Less than or equal to the value. -/
  | lessEqual
  /-- Matches the pattern. -/
  | like
  /-- Does not match the pattern. -/
  | notLike
  /-- Contains the text. -/
  | contains
  /-- One of the values. -/
  | inList
  /-- None of the values. -/
  | notInList
  /-- Between the two values. -/
  | between
  /-- Not between the two values. -/
  | notBetween
  /-- Has no value. -/
  | isNull
  /-- Has a value. -/
  | isNotNull
deriving DecidableEq

namespace Operator

/-- The SQL symbol of a plain comparison. -/
def comparison? : Operator → Option String
  | .equal => some "="
  | .notEqual => some "!="
  | .greater => some ">"
  | .less => some "<"
  | .greaterEqual => some ">="
  | .lessEqual => some "<="
  | _ => none

/-- The word for the operator. -/
def name : Operator → String
  | .equal => "EQUAL"
  | .notEqual => "NOT_EQUAL"
  | .greater => "GREATER"
  | .less => "LESS"
  | .greaterEqual => "GREATER_EQUAL"
  | .lessEqual => "LESS_EQUAL"
  | .like => "LIKE"
  | .notLike => "NOT_LIKE"
  | .contains => "CONTAINS"
  | .inList => "IN"
  | .notInList => "NOT_IN"
  | .between => "BETWEEN"
  | .notBetween => "NOT_BETWEEN"
  | .isNull => "IS_NULL"
  | .isNotNull => "IS_NOT_NULL"

/-- A blank or a hyphen inside the word counts as an underscore. -/
def joined (s : String) : String :=
  String.ofList (s.toList.map fun c => if c = ' ' ∨ c = '-' then '_' else c)

/-- Reads the word or symbol for an operator. -/
def read (s : String) : Except WordFault Operator :=
  match joined (upper (trim s)) with
  | "EQUAL" => .ok .equal
  | "EQ" => .ok .equal
  | "=" => .ok .equal
  | "NOT_EQUAL" => .ok .notEqual
  | "NE" => .ok .notEqual
  | "!=" => .ok .notEqual
  | "<>" => .ok .notEqual
  | "GREATER" => .ok .greater
  | "GREATER_THAN" => .ok .greater
  | ">" => .ok .greater
  | "LESS" => .ok .less
  | "LESS_THAN" => .ok .less
  | "<" => .ok .less
  | "GREATER_EQUAL" => .ok .greaterEqual
  | ">=" => .ok .greaterEqual
  | "LESS_EQUAL" => .ok .lessEqual
  | "<=" => .ok .lessEqual
  | "LIKE" => .ok .like
  | "NOT_LIKE" => .ok .notLike
  | "CONTAINS" => .ok .contains
  | "IN" => .ok .inList
  | "NOT_IN" => .ok .notInList
  | "BETWEEN" => .ok .between
  | "NOT_BETWEEN" => .ok .notBetween
  | "IS_NULL" => .ok .isNull
  | "IS_NOT_NULL" => .ok .isNotNull
  | _ => .error (.operator s)

end Operator

/-! ### Sort directions -/

/-- A sort direction. -/
inductive Direction where
  /-- The least first. -/
  | asc
  /-- The greatest first. -/
  | desc
deriving DecidableEq

namespace Direction

/-- The word for the direction. -/
def name : Direction → String
  | .asc => "ASC"
  | .desc => "DESC"

/-- Reads the word for a direction. -/
def read (s : String) : Except WordFault Direction :=
  match upper (trim s) with
  | "ASC" => .ok .asc
  | "DESC" => .ok .desc
  | other => .error (.direction other)

end Direction

/-! ### Dialects -/

/-- An SQL dialect. -/
inductive Dialect where
  /-- The dialect of Db2, which is taken where none is named. -/
  | db2
  /-- The dialect of PostgreSQL. -/
  | postgres
  /-- The dialect of MySQL and MariaDB. -/
  | mysql
  /-- The dialect of SQLite. -/
  | sqlite
deriving DecidableEq

namespace Dialect

/-- The word for the dialect in models and settings. -/
def name : Dialect → String
  | .db2 => "db2"
  | .postgres => "postgres"
  | .mysql => "mysql"
  | .sqlite => "sqlite"

/-- Reads a name of a dialect. -/
def read (s : String) : Except WordFault Dialect :=
  match lower (trim s) with
  | "db2" => .ok .db2
  | "postgres" => .ok .postgres
  | "postgresql" => .ok .postgres
  | "pg" => .ok .postgres
  | "mysql" => .ok .mysql
  | "mariadb" => .ok .mysql
  | "sqlite" => .ok .sqlite
  | other => .error (.dialect other)

/-- The dialect that the scheme of a connection URL suggests. -/
def ofUrl (url : String) : Dialect :=
  match lower (String.ofList (url.toList.takeWhile (· ≠ ':'))) with
  | "postgres" => .postgres
  | "postgresql" => .postgres
  | "mysql" => .mysql
  | "mariadb" => .mysql
  | "sqlite" => .sqlite
  | _ => .db2

end Dialect

end BoundQuery
