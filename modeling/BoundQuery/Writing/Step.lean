import BoundQuery.Pipeline.Step
import BoundQuery.Query.Words

/-!
# Writing parameters, steps and run settings
-/

namespace BoundQuery

/-- A parameter as data. -/
def Parameter.toJson (p : Parameter) : Json :=
  .record [("type", .string p.kind.name), ("value", p.value)]

/-- A step as data; without a transform there is no such field. -/
def Step.toJson (s : Step) : Json :=
  let fields := [("sql", .string s.sql), ("parameters", .array (s.parameters.map Parameter.toJson))]
  match s.transform with
  | some script => .record (fields ++ [("transform", .string script)])
  | none => .record fields

/-- A return mode as data. -/
def ReturnMode.toJson : ReturnMode → Json
  | .all => .string "all"
  | .last => .string "last"
  | .specific index => .record [("specific", .ofNat index.toNat)]
  | .merge => .string "merge"

/-- Run settings as data. -/
def RunSettings.toJson (s : RunSettings) : Json :=
  .record [("row_limit", .ofNat s.rowLimit.toNat), ("preview", .bool s.preview),
    ("use_transaction", .bool s.useTransaction), ("stop_on_error", .bool s.stopOnError),
    ("select_only", .bool s.selectOnly), ("return_mode", s.returnMode.toJson)]

end BoundQuery
