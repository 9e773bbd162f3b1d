import BoundQuery.Schema.Table

/-!
# Schema documents

A `Document` lists the columns of several tables.

* `Document.table`: the table of a name. A name written exactly so comes first; otherwise the
  first one that differs in the case of ASCII letters only.
-/

namespace BoundQuery

open Text

/-- A column as a document defines it. -/
structure ColumnDefinition where
  /-- The name. -/
  name : String
  /-- The type. -/
  type : String
deriving DecidableEq

/-- The columns of several tables, by the name of the table. -/
structure Document where
  /-- The definitions by table. -/
  tables : Keyed (List ColumnDefinition)
deriving DecidableEq

/-- A name that no table has. -/
structure UnknownTable where
  /-- The name. -/
  table : String
deriving DecidableEq

/-- The text of the fault. -/
def UnknownTable.message (u : UnknownTable) : String := "Unknown table \"" ++ u.table ++ "\""

namespace Document

/-- The definitions for a table. -/
def definitions? (d : Document) (table : String) : Option (List ColumnDefinition) :=
  match d.tables.get? table with
  | some definitions => some definitions
  | none =>
    (d.tables.find? fun entry => lowerAscii entry.1 = lowerAscii table).map Prod.snd

/-- The table of the given name. -/
def table (d : Document) (name : String) : Except UnknownTable Table :=
  match d.definitions? name with
  | some definitions => .ok (.ofColumns (definitions.map fun c => (c.name, c.type)))
  | none => .error ⟨name⟩

end Document

end BoundQuery
