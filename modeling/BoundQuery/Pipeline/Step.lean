import BoundQuery.Template.Parameter

/-!
# Steps and settings of a run

* `Step`: one templated statement of a pipeline.
* `ReturnMode`: how the outputs of the steps make the result.
* `RunSettings`: what holds for the whole run.
-/

namespace BoundQuery

/-- One statement of a pipeline. -/
structure Step where
  /-- The template. -/
  sql : String
  /-- The parameters. -/
  parameters : List Parameter
  /-- The script that transforms the result. -/
  transform : Option String

/-- How the outputs of the steps make the result of the run. -/
inductive ReturnMode where
  /-- All of them, in order. -/
  | all
  /-- The last one. -/
  | last
  /-- The one at this index, from 0. -/
  | specific (index : UInt64)
  /-- One object with the fields of all of them; later fields count. -/
  | merge
deriving DecidableEq

/-- What holds for a whole run. -/
structure RunSettings where
  /-- The greatest number of rows of a read; 0 means no limit. -/
  rowLimit : UInt64 := 200
  /-- Whether statements are only resolved and not executed. -/
  preview : Bool := false
  /-- Whether all statements run in one transaction. -/
  useTransaction : Bool := false
  /-- Whether the outputs are returned as they are as soon as a step fails. -/
  stopOnError : Bool := false
  /-- Whether anything but reads is rejected. -/
  selectOnly : Bool := false
  /-- How the outputs make the result. -/
  returnMode : ReturnMode := .all
deriving DecidableEq

end BoundQuery
