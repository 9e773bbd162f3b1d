import BoundQuery.Query.Model

/-!
# Writing query models

Each entry of a model as data, with every field under its own name and every word in its one
spelling.
-/

namespace BoundQuery

/-- A SELECT entry as data. -/
def SelectItem.toJson : SelectItem → Json
  | .column name label =>
    .record [("mode", .string "column"), ("column", .string name), ("alias", .ofOption label)]
  | .aggregate function field distinct label =>
    .record [("mode", .string "aggregate"), ("function", .string function.name),
      ("field", .ofOption field), ("distinct", .bool distinct), ("alias", .ofOption label)]
  | .custom expression label =>
    .record [("mode", .string "custom"), ("expression", .string expression),
      ("alias", .ofOption label)]

/-- A condition as data. -/
def Condition.toJson : Condition → Json
  | .test column operator value values =>
    .record [("mode", .string "column"), ("column", .string column),
      ("operator", .string operator.name), ("value", value), ("values", .array values)]
  | .membership negated column values =>
    .record [("mode", .string (if negated then "column_not_in" else "column_in")),
      ("column", .string column), ("values", .array values)]
  | .range negated column values =>
    .record [("mode", .string (if negated then "not_between" else "between")),
      ("column", .string column), ("values", .array values)]
  | .subquery negated sql =>
    .record [("mode", .string (if negated then "not_exists" else "exists")), ("sql", .string sql)]
  | .expression sql => .record [("mode", .string "expression"), ("sql", .string sql)]

/-- A group of conditions as data. -/
def Group.toJson (g : Group) : Json :=
  .record [("filterType", .string g.connector.name),
    ("conditions", .array (g.conditions.map Condition.toJson))]

/-- A GROUP BY entry as data. -/
def GroupItem.toJson : GroupItem → Json
  | .column name => .record [("mode", .string "column"), ("column", .string name)]
  | .expression sql => .record [("mode", .string "expression"), ("expression", .string sql)]

/-- A condition on groups of rows as data. -/
def HavingItem.toJson : HavingItem → Json
  | .aggregate function field operator value =>
    .record [("mode", .string "aggregate"), ("function", .string function.name),
      ("field", .ofOption field), ("operator", .string operator.name), ("value", value)]
  | .expression sql => .record [("mode", .string "expression"), ("expression", .string sql)]

/-- An ORDER BY entry as data. -/
def OrderItem.toJson : OrderItem → Json
  | .column name direction =>
    .record [("mode", .string "column"), ("column", .string name),
      ("direction", .string direction.name)]
  | .expression sql direction =>
    .record [("mode", .string "expression"), ("expression", .string sql),
      ("direction", .ofOption (direction.map Direction.name))]

/-- A limit as data. -/
def limitJson : Option Int64 → Json
  | some n => .integer n.toInt
  | none => .null

/-- A query model as data. -/
def QueryModel.toJson (m : QueryModel) : Json :=
  .record [("select", .array (m.select.map SelectItem.toJson)),
    ("filters", .array (m.filters.map Group.toJson)),
    ("groupBy", .array (m.groupBy.map GroupItem.toJson)),
    ("having", .array (m.having.map HavingItem.toJson)),
    ("orderBy", .array (m.orderBy.map OrderItem.toJson)),
    ("limit", limitJson m.limit)]

end BoundQuery
