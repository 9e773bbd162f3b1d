import BoundQuery.Json.Printer
import BoundQuery.Keyed
import BoundQuery.Text.Blank

/-!
# Transforms of results

A transform turns the rows that a statement gave into what its step publishes.

* `Transform`: the transforms; `Transform.ofScript?` reads one.
* `Transform.apply`: the result for given rows.
-/

namespace BoundQuery

open Text

/-- What happens to a result before it is published. -/
inductive Transform where
  /-- Nothing. -/
  | identity
  /-- The first row, or `null`. -/
  | first
  /-- The number of rows. -/
  | count
  /-- The values of a column. -/
  | pluck (column : String)
  /-- The rows by the text of a column; of several the last. -/
  | keyBy (column : String)
deriving DecidableEq

/-- Why a transform gives no result. -/
inductive TransformFault where
  /-- The result is no list of rows. -/
  | notRows
  /-- The script names no transform. -/
  | unknown (script : String)
deriving DecidableEq

/-- The text of the fault. -/
def TransformFault.message : TransformFault → String
  | .notRows => "Transform error: expected an array of rows"
  | .unknown script => "Transform error: Unknown transform \"" ++ script ++ "\""

namespace Transform

/-- The values of a column in rows; a row without the column gives `null`. -/
def pluckRows (column : String) (rows : List Json) : Json :=
  .array (rows.map fun row => (row.field? column).getD .null)

/-- The key of a row: the text of a column, unless it is absent or `null`. -/
def rowKey? (column : String) (row : Json) : Option String :=
  match row.field? column with
  | none => none
  | some .null => none
  | some v => some v.text

/-- Rows by the text of a column. -/
def keyRows (column : String) (rows : List Json) : Json :=
  .record (rows.filterMap fun row => (rowKey? column row).map fun key => (key, row))

/-- The result for a list of rows. -/
def ofRows : Transform → List Json → Json
  | .identity, rows => .array rows
  | .first, rows => rows.headD .null
  | .count, rows => .ofNat rows.length
  | .pluck column, rows => pluckRows column rows
  | .keyBy column, rows => keyRows column rows

/-- The result for what a statement gave. -/
def apply (t : Transform) (raw : Json) : Except TransformFault Json :=
  match t, raw with
  | .identity, raw => .ok raw
  | t, .array rows => .ok (t.ofRows rows)
  | _, _ => .error .notRows

/-- A script as a name and what follows its first colon. -/
def splitScript (script : List Char) : String × Option String :=
  let name := String.ofList (trimChars (script.takeWhile (· ≠ ':')))
  match script.dropWhile (· ≠ ':') with
  | [] => (name, none)
  | _ :: rest => (name, some (String.ofList (trimChars rest)))

/-- The transform that a script names. -/
def ofScript? (script : String) : Option Transform :=
  match splitScript (trimChars script.toList) with
  | ("identity", none) => some .identity
  | ("first", none) => some .first
  | ("count", none) => some .count
  | ("pluck", some column) => if column.isEmpty then none else some (.pluck column)
  | ("key_by", some column) => if column.isEmpty then none else some (.keyBy column)
  | _ => none

/-- Runs a script on what a statement gave. -/
def run (script : String) (raw : Json) : Except TransformFault Json :=
  match ofScript? script with
  | some t => t.apply raw
  | none => .error (.unknown (trim script))

end Transform

end BoundQuery
