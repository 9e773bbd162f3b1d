import BoundQuery.CommandLine.Arguments
import BoundQuery.Json.Printer
import BoundQuery.BindValue

/-!
# What the commands print

* `boundLines`: a statement with its bind values.
* `outputLines`: the outputs of a run; rows become tables.
-/

namespace BoundQuery

/-- A value in a cell of a table. -/
def cellText : Json → String
  | .null => "NULL"
  | .string s => s
  | v => v.compact

/-- One line per bind value, numbered from 1. -/
def valueLines (values : List BindValue) : List String :=
  values.mapIdx fun i v => "  " ++ toString (i + 1) ++ " = " ++ v.display

/-- A statement under a heading, with its bind values. -/
def boundLines (heading sql : String) (values : List BindValue) : List String :=
  let listing := if values.isEmpty then [] else "" :: "Bindings:" :: valueLines values
  heading :: sql :: listing

/-! ### Tables -/

/-- The fields of rows, if all of them are objects and there is at least one. -/
def rowFields? : List Json → Option (List (List (String × Json)))
  | [] => none
  | rows =>
    rows.mapM fun row =>
      match row with
      | .object fields => some fields
      | _ => none

/-- A text with blanks after it up to a width. -/
def padRight (width : Nat) (s : String) : String :=
  s ++ String.ofList (List.replicate (width - s.length) ' ')

/-- The text of a column in a row. -/
def cell (column : String) (row : List (String × Json)) : String :=
  ((row.lookup column).map cellText).getD ""

/-- The width of a column: that of its widest cell, and no less than the bytes of its name. -/
def columnWidth (rows : List (List (String × Json))) (column : String) : Nat :=
  rows.foldl (fun width row => max width (cell column row).length) column.utf8ByteSize

/-- The lines of a table of rows; the first row names the columns. -/
def tableLines (rows : List (List (String × Json))) : List String :=
  let columns := (rows.headD []).map Prod.fst
  let widths := columns.map (columnWidth rows)
  let rule := widths.map fun w => String.ofList (List.replicate w '─')
  let line (cells : List String) : String := " │ ".intercalate (List.zipWith padRight widths cells)
  line columns :: "─┼─".intercalate rule ::
    rows.map (fun row => line (columns.map fun c => cell c row)) ++
    [toString rows.length ++ " row(s)"]

/-- The lines of a value: rows as a table, anything else as data. -/
def resultLines (v : Json) : List String :=
  let rows? : Option (List (List (String × Json))) :=
    match v with
    | .array items => rowFields? items
    | _ => none
  match rows? with
  | some rows => tableLines rows
  | none => [v.pretty]

/-- The lines of one field of an output. The report of a failure has one line and the results up to
then are not shown. -/
def fieldLines (name : String) (v : Json) : List String :=
  if name = "error" then ["✗ " ++ cellText v]
  else if name = "contextSnapshot" then []
  else name :: resultLines v ++ [""]

/-- The lines of one output. -/
def outputTableLines : Json → List String
  | .object fields => fields.flatMap fun (name, v) => fieldLines name v
  | v => [v.compact]

/-- The lines of all outputs. -/
def outputLines (form : OutputForm) (outputs : List Json) : List String :=
  if outputs.isEmpty then ["(no results)"]
  else
    match form with
    | .json => [(Json.array outputs).pretty]
    | .table => outputs.flatMap outputTableLines

end BoundQuery
