import BoundQuery.Pipeline.Step
import BoundQuery.Reading.Record

/-!
# Reading parameters, steps and run settings
-/

namespace BoundQuery

/-- Reads the kind of a parameter. -/
def readParameterKind (origin : Origin) : Source → Except ReadFault ParameterKind :=
  readChoice origin
    [("string", .plain .string), ("number", .plain .number), ("boolean", .plain .boolean),
      ("date", .plain .date), ("null", .plain .null), ("sql", .plain .sql),
      ("sql-escape", .plain .sql)]

/-- Reads a dialect. -/
def readDialect (origin : Origin) : Source → Except ReadFault Dialect :=
  readChoice origin
    [("db2", .plain .db2), ("postgres", .plain .postgres), ("mariadb", .plain .mysql),
      ("mysql", .plain .mysql), ("sqlite", .plain .sqlite)]

/-- Reads a return mode. -/
def readReturnMode (origin : Origin) : Source → Except ReadFault ReturnMode :=
  readChoice origin
    [("all", .plain .all), ("last", .plain .last), ("specific", .counted .specific),
      ("merge", .plain .merge)]

/-- The slots of a parameter. -/
structure ParameterSlots where
  /-- The kind. -/
  kind : Option ParameterKind := none
  /-- The value. -/
  value : Option Json := none

/-- The reader of a parameter. -/
def parameterReader (origin : Origin) : RecordReader Parameter :=
  { Slots := ParameterSlots
    empty := {}
    names := ["type", "value"]
    visit := fun slots name s =>
      match name with
      | "type" =>
        fill slots.kind "type" (readParameterKind origin s) fun k => { slots with kind := some k }
      | "value" => fill slots.value "value" s.value fun v => { slots with value := some v }
      | _ => skip s slots
    finish := fun slots => .ok ⟨slots.kind.getD .string, slots.value.getD .null⟩ }

/-- Reads a parameter. -/
def readParameter (origin : Origin) (s : Source) : Except ReadFault Parameter :=
  readRecord "BindingParam" (parameterReader origin) (s.counted origin 2)

/-- The slots of a step. -/
structure StepSlots where
  /-- The template. -/
  sql : Option String := none
  /-- The parameters. -/
  parameters : Option (List Parameter) := none
  /-- The script. -/
  transform : Option (Option String) := none

/-- The reader of a step. -/
def stepReader (origin : Origin) : RecordReader Step :=
  { Slots := StepSlots
    empty := {}
    names := ["sql", "parameters", "transform"]
    visit := fun slots name s =>
      let parameters :=
        fill slots.parameters "parameters" (s.items (readParameter origin)) fun ps =>
          { slots with parameters := some ps }
      match name with
      | "sql" => fill slots.sql "sql" s.text fun q => { slots with sql := some q }
      | "parameters" => parameters
      | "bindings" => parameters
      | "transform" =>
        fill slots.transform "transform" s.optionalText fun t =>
          { slots with transform := some t }
      | _ => skip s slots
    finish := fun slots => do
      let sql ← required slots.sql "sql"
      return ⟨sql, slots.parameters.getD [], slots.transform.getD none⟩ }

/-- Reads a step. -/
def readStep (origin : Origin) (s : Source) : Except ReadFault Step :=
  readRecord "QueryItem" (stepReader origin) (s.counted origin 3)

/-- The slots of a pipeline file. -/
structure PipelineSlots where
  /-- The steps. -/
  steps : Option (List Step) := none

/-- The reader of a pipeline file. -/
def pipelineReader (origin : Origin) : RecordReader (List Step) :=
  { Slots := PipelineSlots
    empty := {}
    names := ["queries"]
    visit := fun slots name s =>
      match name with
      | "queries" =>
        fill slots.steps "queries" (s.items (readStep origin)) fun ss => { steps := some ss }
      | _ => skip s slots
    finish := fun slots => required slots.steps "queries" }

/-- Reads a pipeline file. -/
def readPipeline (origin : Origin) : Source → Except ReadFault (List Step) :=
  readRecord "PipelineFile" (pipelineReader origin)

/-- The slots of run settings. -/
structure RunSettingsSlots where
  /-- The row limit. -/
  rowLimit : Option UInt64 := none
  /-- Preview. -/
  preview : Option Bool := none
  /-- Transaction. -/
  useTransaction : Option Bool := none
  /-- Stop on error. -/
  stopOnError : Option Bool := none
  /-- Reads only. -/
  selectOnly : Option Bool := none
  /-- Return mode. -/
  returnMode : Option ReturnMode := none

/-- The reader of run settings. -/
def runSettingsReader (origin : Origin) : RecordReader RunSettings :=
  { Slots := RunSettingsSlots
    empty := {}
    names := ["row_limit", "preview", "use_transaction", "stop_on_error", "select_only",
      "return_mode"]
    visit := fun slots name s =>
      match name with
      | "row_limit" =>
        fill slots.rowLimit "row_limit" (s.uint64 "u64") fun n =>
          { slots with rowLimit := some n }
      | "preview" => fill slots.preview "preview" s.flag fun b => { slots with preview := some b }
      | "use_transaction" =>
        fill slots.useTransaction "use_transaction" s.flag fun b =>
          { slots with useTransaction := some b }
      | "stop_on_error" =>
        fill slots.stopOnError "stop_on_error" s.flag fun b =>
          { slots with stopOnError := some b }
      | "select_only" =>
        fill slots.selectOnly "select_only" s.flag fun b => { slots with selectOnly := some b }
      | "return_mode" =>
        fill slots.returnMode "return_mode" (readReturnMode origin s) fun m =>
          { slots with returnMode := some m }
      | _ => skip s slots
    finish := fun slots =>
      let default : RunSettings := {}
      .ok
        { rowLimit := slots.rowLimit.getD default.rowLimit
          preview := slots.preview.getD default.preview
          useTransaction := slots.useTransaction.getD default.useTransaction
          stopOnError := slots.stopOnError.getD default.stopOnError
          selectOnly := slots.selectOnly.getD default.selectOnly
          returnMode := slots.returnMode.getD default.returnMode } }

/-- Reads run settings. -/
def readRunSettings (origin : Origin) (s : Source) : Except ReadFault RunSettings :=
  readRecord "PipelineConfig" (runSettingsReader origin) (s.counted origin 6)

end BoundQuery
