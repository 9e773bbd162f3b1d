import BoundQuery.Text.Blank
import BoundQuery.Text.Case

/-!
# Columns

A `Column` is a name with what is known of its type. The type decides how values for the column
are cast and which aggregates and tests it allows.

* `Column.typed`: a column of a given type; the length in parentheses does not count.
* `Column.untyped`: a column of no known type.
-/

namespace BoundQuery

open Text

/-- What is known of one column. -/
structure Column where
  /-- The name. -/
  name : String
  /-- The type in upper case, if known. -/
  type : Option String
  /-- Whether the column holds numbers. -/
  isNumeric : Bool
  /-- Whether the column holds dates or times. -/
  isDate : Bool
  /-- Whether the column holds texts. -/
  isString : Bool
deriving DecidableEq

namespace Column

/-- The types of numbers. -/
def numericTypes : List String :=
  ["INTEGER", "BIGINT", "SMALLINT", "DECIMAL", "NUMERIC", "FLOAT", "DOUBLE"]

/-- The types of dates and times. -/
def dateTypes : List String := ["DATE", "TIMESTAMP", "TIME"]

/-- The types of texts. -/
def stringTypes : List String := ["CHAR", "VARCHAR", "CLOB"]

/-- A type without what follows an opening parenthesis. -/
def baseType (type : String) : String :=
  String.ofList (trimChars (type.toList.takeWhile (· ≠ '(')))

/-- The column of the given name and type. -/
def typed (name type : String) : Column :=
  let type := upper (trim type)
  let base := baseType type
  { name
    type := some type
    isNumeric := numericTypes.contains base
    isDate := dateTypes.contains base
    isString := stringTypes.contains base }

/-- The column of the given name without a known type. -/
def untyped (name : String) : Column :=
  { name, type := none, isNumeric := false, isDate := false, isString := false }

end Column

end BoundQuery
