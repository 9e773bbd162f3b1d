import BoundQuery.Pipeline.Output
import BoundQuery.Pipeline.Sanitizer
import BoundQuery.Pipeline.Store
import BoundQuery.Pipeline.Transform
import BoundQuery.Template.Statement

/-!
# Runs

A run takes the steps of a pipeline in order. Each step is bound in the context of the results
before it, checked, executed and transformed, and then publishes its result in that context. The
first failure ends the run and becomes its last output.

* `Runner`: the store, the check and the transforms of a run, and its settings.
* `Runner.step`, `Runner.steps`: one step, all steps.
* `Runner.attempt`: all steps, in a transaction if the settings want one.
* `Runner.run`: the whole run. It fails itself only if a transaction that is still open after a
  failure cannot be rolled back.
* `Progress`: what has been reached, with the calls that the store received.
-/

namespace BoundQuery

/-- Why a run stops. -/
inductive RunFault where
  /-- A step makes no statement. -/
  | statement (fault : StatementFault)
  /-- A statement must not run. -/
  | rejection (fault : Rejection)
  /-- A transform gives no result. -/
  | transform (fault : TransformFault)
  /-- The store reports a failure. -/
  | store (fault : StoreFault)
  /-- A statement could not be executed, for the given reason. -/
  | execution (cause : RunFault) (sql : String) (values : List BindValue)
  /-- A transaction could not be rolled back. -/
  | rollback (fault : StoreFault)

/-- The text of the fault. -/
def RunFault.message : RunFault → String
  | .statement fault => fault.message
  | .rejection fault => fault.message
  | .transform fault => fault.message
  | .store fault => fault.message
  | .execution cause sql values =>
    "SQL Execution Error\n" ++ cause.message ++ "\n---\nSQL: " ++ sql ++ "\nBindings: " ++
      BindValue.list values
  | .rollback fault => "Transaction error: rollback failed: " ++ fault.message

/-- What has been reached in a run. -/
structure Progress (σ : Type) where
  /-- The state of the store. -/
  state : σ
  /-- The calls that the store received, in order. -/
  calls : List Call
  /-- The results of the steps so far. -/
  context : Context
  /-- The outputs of the steps so far, in order. -/
  outputs : List Json

namespace Progress

variable {σ : Type}

/-- The start of a run. -/
def start (state : σ) : Progress σ := ⟨state, [], .empty, []⟩

/-- Notes a call and the state that it left the store in. -/
def called (p : Progress σ) (call : Call) (state : σ) : Progress σ :=
  { p with state, calls := p.calls ++ [call] }

/-- Adds an output. -/
def add (p : Progress σ) (output : Json) : Progress σ :=
  { p with outputs := p.outputs ++ [output] }

/-- Publishes the result of the step with an index. -/
def publish (p : Progress σ) (index : Nat) (value : Json) : Progress σ :=
  { p with
    context := p.context.insert (outputName index) value
    outputs := p.outputs ++ [stepOutput index value] }

end Progress

/-- How steps are run. -/
structure Runner (σ : Type) where
  /-- The store. -/
  store : Store σ
  /-- Checks a statement: the text, the greatest number of rows, and whether only reads may run. -/
  sanitize : String → UInt64 → Bool → Except RunFault String
  /-- Transforms a result: the script, the result, the context and the index of the step. -/
  transform : String → Json → Context → Nat → Except RunFault Json
  /-- The settings. -/
  settings : RunSettings

/-- Where a run stands after all its steps or after the first failure. -/
structure Outcome (σ : Type) where
  /-- The failure. -/
  fault : Option RunFault
  /-- Whether a transaction is still open. -/
  isOpen : Bool
  /-- What has been reached. -/
  progress : Progress σ

namespace Runner

variable {σ : Type}

/-- The runner with the check of a dialect and the transforms by name. -/
def standard (store : Store σ) (d : Dialect) (settings : RunSettings) : Runner σ where
  store
  sanitize sql rowLimit selectOnly := (d.sanitize sql rowLimit selectOnly).mapError .rejection
  transform script raw _ _ := (Transform.run script raw).mapError .transform
  settings

variable (r : Runner σ)

/-! ### Calls -/

/-- Opens a transaction. -/
def begin (p : Progress σ) : Except StoreFault Unit × Progress σ :=
  let (answer, state) := r.store.begin p.state
  (answer, p.called .begin state)

/-- Commits the transaction. -/
def commit (p : Progress σ) : Except StoreFault Unit × Progress σ :=
  let (answer, state) := r.store.commit p.state
  (answer, p.called .commit state)

/-- Rolls the transaction back. -/
def rollback (p : Progress σ) : Except StoreFault Unit × Progress σ :=
  let (answer, state) := r.store.rollback p.state
  (answer, p.called .rollback state)

/-- Executes a statement that has been checked. -/
def send (sql : String) (values : List BindValue) (p : Progress σ) :
    Except StoreFault Json × Progress σ :=
  let (answer, state) := r.store.execute p.state sql values r.settings.rowLimit
  (answer, p.called (.execute sql values r.settings.rowLimit) state)

/-! ### Steps -/

/-- Checks a bound statement and executes it. -/
def execute (b : BoundStatement) (p : Progress σ) : Except RunFault Json × Progress σ :=
  match r.sanitize b.sql r.settings.rowLimit r.settings.selectOnly with
  | .error fault => (.error (.execution fault b.sql b.values), p)
  | .ok sql =>
    match r.send sql b.values p with
    | (.ok raw, p) => (.ok raw, p)
    | (.error fault, p) => (.error (.execution (.store fault) sql b.values), p)

/-- What a step publishes for what its statement gave: a step without a script publishes that. -/
def transformed (s : Step) (index : Nat) (raw : Json) (c : Context) : Except RunFault Json :=
  match s.transform.bind Text.nonBlank with
  | some script => r.transform script raw c index
  | none => .ok raw

/-- Runs one step with a statement that has been bound. -/
def boundStep (index : Nat) (s : Step) (b : BoundStatement) (p : Progress σ) :
    Option RunFault × Progress σ :=
  if r.settings.preview then (none, p.add (stepOutput index (previewRecord b)))
  else if b.empty then (none, p.publish index (.array []))
  else
    match r.execute b p with
    | (.error fault, p) => (some fault, p)
    | (.ok raw, p) =>
      match r.transformed s index raw p.context with
      | .error fault => (some fault, p)
      | .ok value => (none, p.publish index value)

/-- Runs the step with an index. A step that could not match anything is not executed, and a
preview executes and publishes nothing. -/
def step (index : Nat) (s : Step) (p : Progress σ) : Option RunFault × Progress σ :=
  match s.bind p.context with
  | .error fault => (some (.statement fault), p)
  | .ok b => r.boundStep index s b p

/-- Runs steps up to the first failure; the first of them has the given index. -/
def steps (index : Nat) : List Step → Progress σ → Option RunFault × Progress σ
  | [], p => (none, p)
  | s :: rest, p =>
    match r.step index s p with
    | (some fault, p) => (some fault, p)
    | (none, p) => steps (index + 1) rest p

/-! ### Runs -/

/-- Whether the steps run in a transaction. -/
def isTransactional : Bool := r.settings.useTransaction && !r.settings.preview

/-- Runs all steps within a transaction that has been opened, and commits it. -/
def withinTransaction (ss : List Step) (p : Progress σ) : Outcome σ :=
  match r.steps 0 ss p with
  | (some fault, p) => ⟨some fault, true, p⟩
  | (none, p) =>
    match r.commit p with
    | (.error fault, p) => ⟨some (.store fault), true, p⟩
    | (.ok (), p) => ⟨none, false, p⟩

/-- Runs all steps up to the first failure. -/
def attempt (ss : List Step) (p : Progress σ) : Outcome σ :=
  if r.isTransactional then
    match r.begin p with
    | (.error fault, p) => ⟨some (.store fault), false, p⟩
    | (.ok (), p) => r.withinTransaction ss p
  else
    let (fault, p) := r.steps 0 ss p
    ⟨fault, false, p⟩

/-- Rolls back a transaction that is still open. -/
def close (o : Outcome σ) : Except StoreFault Unit × Progress σ :=
  if o.isOpen then r.rollback o.progress else (.ok (), o.progress)

/-- The result of a run from all its outputs. A preview shows all of them. -/
def result (outputs : List Json) : List Json :=
  if r.settings.preview then outputs else aggregate r.settings.returnMode outputs

/-- The result of a run whose last output tells of a failure. -/
def failedResult (outputs : List Json) : List Json :=
  if r.settings.stopOnError then outputs else r.result outputs

/-- Runs the steps of a pipeline: the result, and what was reached. -/
def run (ss : List Step) (state : σ) : Except RunFault (List Json) × Progress σ :=
  let o := r.attempt ss (.start state)
  match o.fault with
  | none => (.ok (r.result o.progress.outputs), o.progress)
  | some fault =>
    match r.close o with
    | (.error e, p) => (.error (.rollback e), p)
    | (.ok (), p) =>
      let p := p.add (failureRecord fault.message p.context)
      (.ok (r.failedResult p.outputs), p)

end Runner

end BoundQuery
