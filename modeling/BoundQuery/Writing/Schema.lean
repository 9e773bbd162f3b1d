import BoundQuery.Schema.Document

/-!
# Writing columns, tables and schema documents
-/

namespace BoundQuery

/-- A column as data. -/
def Column.toJson (c : Column) : Json :=
  .record [("name", .string c.name), ("type", .ofOption c.type), ("is_numeric", .bool c.isNumeric),
    ("is_date", .bool c.isDate), ("is_string", .bool c.isString)]

/-- A table as data: its columns by name. -/
def Table.toJson (t : Table) : Json :=
  .object (t.columns.map fun (name, column) => (name, column.toJson))

/-- A column definition as data. -/
def ColumnDefinition.toJson (c : ColumnDefinition) : Json :=
  .record [("name", .string c.name), ("type", .string c.type)]

/-- A schema document as data. -/
def Document.toJson (d : Document) : Json :=
  .object (d.tables.map fun (name, columns) =>
    (name, .array (columns.map ColumnDefinition.toJson)))

end BoundQuery
