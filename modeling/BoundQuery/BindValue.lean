import BoundQuery.Calendar.Timestamp
import BoundQuery.Json.Printer

/-!
# Bind values

A `BindValue` is what a store receives for one placeholder.

* `BindValue.toJson`: the value in previews and in reports of failed statements.
* `BindValue.display`: the value in listings, texts in single quotes with a quote written twice.
* `BindValue.list`: a list of values as a report shows it.
-/

namespace BoundQuery

/-- A value for one placeholder. -/
inductive BindValue where
  /-- No value. -/
  | null
  /-- A truth value. -/
  | bool (value : Bool)
  /-- An integer of 64 signed bits. -/
  | int (value : Int64)
  /-- A double. -/
  | float (value : Double)
  /-- A text. -/
  | text (value : String)
  /-- A moment. -/
  | timestamp (value : Timestamp)
deriving DecidableEq

namespace BindValue

/-- The value as data; a moment becomes its written form. -/
def toJson : BindValue → Json
  | .null => .null
  | .bool b => .bool b
  | .int i => .integer i.toInt
  | .float x => .ofDouble x
  | .text s => .string s
  | .timestamp t => .string t.render

/-- A character of a text between single quotes. -/
def literalChar (c : Char) : List Char := if c = '\x27' then ['\x27', '\x27'] else [c]

/-- A text between single quotes. -/
def literal (s : String) : String :=
  String.ofList ('\x27' :: s.toList.flatMap literalChar ++ ['\x27'])

/-- The value in a listing. -/
def display : BindValue → String
  | .null => "NULL"
  | .bool b => if b then "true" else "false"
  | .int i => toString i.toInt
  | .float x => x.plain
  | .text s => literal s
  | .timestamp t => literal t.render

/-- A list of values as data on one line. -/
def list (values : List BindValue) : String := (Json.array (values.map toJson)).compact

end BindValue

end BoundQuery
