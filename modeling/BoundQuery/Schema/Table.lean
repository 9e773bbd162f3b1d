import BoundQuery.Keyed
import BoundQuery.Json.Basic
import BoundQuery.Schema.Column
import BoundQuery.Schema.Distance

/-!
# Tables

A `Table` is what is known of the columns of one table, by name.

* `Table.ofColumns`, `Table.ofCatalog`, `Table.ofOptions`: tables from the listings that name
  columns; of two entries with one name the later counts.
* `Table.column`: the column of a name, or the fault that there is none.
* `Table.suggestion`: the name most like one that is not there.
-/

namespace BoundQuery

open Text

/-- A name that no column has. -/
structure UnknownColumn where
  /-- The clause that uses the name, with a blank at its end, or nothing. -/
  clause : String
  /-- The name. -/
  column : String
  /-- The name that may have been meant. -/
  suggestion : Option String
deriving DecidableEq

/-- The text of the fault. -/
def UnknownColumn.message (u : UnknownColumn) : String :=
  "Unknown " ++ u.clause ++ "column \"" ++ u.column ++ "\"" ++
    match u.suggestion with
    | some s => ". Did you mean \"" ++ s ++ "\"?"
    | none => ""

/-- A row of a catalog listing. -/
structure CatalogRow where
  /-- The name of the column. -/
  name : String
  /-- Its type, if listed. -/
  type : Option String

/-- An entry of a list of options to choose from. -/
structure ColumnOption where
  /-- The value of the option: the name of the column, if it is a text. -/
  value : Json
  /-- The description of the option: the type of the column. -/
  description : Option String

/-- The column of a catalog row. The row named `*` never has a type. -/
def CatalogRow.column (row : CatalogRow) : Column :=
  match row.type with
  | some type => if row.name = "*" then .untyped row.name else .typed row.name type
  | none => .untyped row.name

/-- The column of an option that names one and describes its type. -/
def ColumnOption.column? (o : ColumnOption) : Option Column :=
  match o.value with
  | .string name => (nonBlank (o.description.getD "")).map fun type => .typed name type
  | _ => none

/-- The columns of one table. -/
structure Table where
  /-- The columns by name. -/
  columns : Keyed Column
deriving DecidableEq

namespace Table

/-- The table without columns. -/
def empty : Table := ⟨[]⟩

/-- The table of a list of columns; of two with one name the later counts. -/
def ofList (columns : List Column) : Table :=
  ⟨Keyed.ofList (columns.map fun c => (c.name, c))⟩

/-- The table of a list of names and types. -/
def ofColumns (columns : List (String × String)) : Table :=
  ofList (columns.map fun (name, type) => .typed name type)

/-- The table of a catalog listing. -/
def ofCatalog (rows : List CatalogRow) : Table := ofList (rows.map CatalogRow.column)

/-- The table of a list of options. -/
def ofOptions (options : List ColumnOption) : Table :=
  ofList (options.filterMap ColumnOption.column?)

/-- The column of the given name. -/
def get? (t : Table) (name : String) : Option Column := t.columns.get? name

/-- The names of the columns in order. -/
def names (t : Table) : List String := t.columns.keys

/-- How far a name may be from the one given: short names must agree. Lengths are in bytes. -/
def tolerance (name : String) : Nat :=
  let size := name.utf8ByteSize
  if size ≤ 2 then 0 else if size ≤ 5 then 2 else 3

/-- The better of the best candidate so far and a new one at the given distance: the new one must
be near enough and nearer than the best. -/
def better (limit : Nat) (best : Option (String × Nat)) (name : String) (distance : Nat) :
    Option (String × Nat) :=
  let wins : Bool :=
    match best with
    | none => true
    | some (_, least) => decide (distance < least)
  if distance ≤ limit ∧ wins then some (name, distance) else best

/-- The column name nearest to a name, whatever the case of its letters, if it is near enough; of
several the first in order. -/
def suggestion (t : Table) (name : String) : Option String :=
  (t.names.foldl
    (fun best candidate =>
      better (tolerance name) best candidate (editDistance (upper name) (upper candidate)))
    none).map Prod.fst

/-- The column of the given name, used in the given clause. -/
def column (t : Table) (clause name : String) : Except UnknownColumn Column :=
  match t.get? name with
  | some c => .ok c
  | none => .error ⟨clause, name, t.suggestion name⟩

end Table

end BoundQuery
