import BoundQuery.Pipeline.Context
import BoundQuery.Pipeline.Step
import BoundQuery.Template.Binding

/-!
# Outputs of a run

* `stepOutput`: the output of a step, an object with one field.
* `previewRecord`: what a preview shows of a statement.
* `failureRecord`: what a run shows of the step that failed.
* `aggregate`: the result of a run from the outputs of its steps.
-/

namespace BoundQuery

/-- The output of the step with an index. -/
def stepOutput (index : Nat) (value : Json) : Json := .record [(outputName index, value)]

/-- One bind value of a preview; the first has index 1. -/
def previewParameter (index : Nat) (v : BindValue) : Json :=
  .record [("index", .ofNat (index + 1)), ("value", v.toJson)]

/-- What a preview shows of a statement. -/
def previewRecord (b : BoundStatement) : Json :=
  .record [("sql", .string b.sql), ("placeholders", .ofNat b.placeholders),
    ("parameters", .array (b.values.mapIdx previewParameter)), ("valid", .bool true)]

/-- What a run shows of the step that failed: why, and the results up to then. -/
def failureRecord (message : String) (c : Context) : Json :=
  .record [("error", .string message), ("contextSnapshot", c.snapshot)]

/-- The fields of an output; what is no object has none. -/
def outputFields : Json → List (String × Json)
  | .object fields => fields
  | _ => []

/-- The result of a run from the outputs of its steps. -/
def aggregate (mode : ReturnMode) (outputs : List Json) : List Json :=
  match mode with
  | .all => outputs
  | .last => outputs.getLast?.toList
  | .specific index => outputs[index.toNat]?.toList
  | .merge => [.record (outputs.flatMap outputFields)]

end BoundQuery
