import BoundQuery.Pipeline.Step
import BoundQuery.Template.Binding
import BoundQuery.Template.Reference

/-!
# From a template and its parameters to a statement

* `Parameter.argument`: resolves the references of a parameter and normalizes it.
* `Step.bind`: the statement of a step, with its parameters in place.
* `StatementFault`: why there is none.
-/

namespace BoundQuery

/-- Why a template and its parameters make no statement. -/
inductive StatementFault where
  /-- A reference stands where it cannot. -/
  | reference (fault : ArrayInText)
  /-- A parameter cannot be normalized. -/
  | parameter (fault : NormalizeFault)
  /-- The arguments do not fit the template. -/
  | binding (fault : BindFault)

/-- The text of the fault. -/
def NormalizeFault.message : NormalizeFault → String
  | .sqlList => "sql parameter cannot be an array"
  | .value fault => "Invalid value: " ++ fault.message

/-- The text of the fault. -/
def StatementFault.message : StatementFault → String
  | .reference fault => "Interpolation error: " ++ fault.message
  | .parameter fault => fault.message
  | .binding fault => fault.message

/-- The argument that a parameter gives in a context. -/
def Parameter.argument (c : Context) (p : Parameter) : Except StatementFault Argument :=
  match interpolate c p.value with
  | .error fault => .error (.reference fault)
  | .ok v => (normalize p.kind v).mapError .parameter

/-- Binds parameters to a template in a context. -/
def bindParameters (c : Context) (template : String) (ps : List Parameter) :
    Except StatementFault BoundStatement :=
  match ps.mapM (Parameter.argument c) with
  | .error fault => .error fault
  | .ok args => (bindTemplate template args).mapError .binding

/-- The statement of a step in a context. -/
def Step.bind (s : Step) (c : Context) : Except StatementFault BoundStatement :=
  bindParameters c s.sql s.parameters

end BoundQuery
