import BoundQuery.Query.Model
import BoundQuery.Reading.Record

/-!
# Reading query models

One reader per entry of a clause, and `readQueryModel` for the whole model. Fields that have a
default may be missing, some fields go by two names, and a list of values may be written as one
text with commas.
-/

namespace BoundQuery

open Text

/-! ### Shared fields -/

/-- The pieces of a text between commas, without the blanks around them; a blank text has none. -/
def commaValues (s : String) : List Json :=
  if (trim s).isEmpty then []
  else (s.toList.splitOn ',').map fun piece => .string (String.ofList (trimChars piece))

/-- A list of values: an array, a text with commas, or `null` for none. -/
def readValues (s : Source) : Except ReadFault (List Json) :=
  match s.value with
  | .ok (.array items) => .ok items
  | .ok (.string text) => .ok (commaValues text)
  | .ok .null => .ok []
  | .ok _ => .error (.noForm "Values")
  | .error fault => .error fault

/-! ### SELECT -/

/-- The slots of a SELECT entry of any kind. -/
structure SelectSlots where
  /-- The column. -/
  column : Option String := none
  /-- The aggregate function. -/
  function : Option Aggregate := none
  /-- The aggregated column. -/
  field : Option (Option String) := none
  /-- Whether equal values count once. -/
  distinct : Option Bool := none
  /-- The expression. -/
  expression : Option String := none
  /-- The alias. -/
  label : Option (Option String) := none

/-- The kinds of SELECT entries. -/
inductive SelectKind where
  /-- A column. -/
  | column
  /-- An aggregate. -/
  | aggregate
  /-- An expression. -/
  | custom

/-- The reader of one kind of SELECT entry. -/
def selectReader : SelectKind → RecordReader SelectItem
  | .column =>
    { Slots := SelectSlots
      empty := {}
      names := ["column", "alias"]
      visit := fun slots name s =>
        match name with
        | "column" => fill slots.column "column" s.text fun c => { slots with column := some c }
        | "alias" =>
          fill slots.label "alias" s.optionalText fun a => { slots with label := some a }
        | _ => skip s slots
      finish := fun slots => do
        let column ← required slots.column "column"
        return .column column (slots.label.getD none) }
  | .aggregate =>
    { Slots := SelectSlots
      empty := {}
      names := ["function", "field", "distinct", "alias"]
      visit := fun slots name s =>
        let function :=
          fill slots.function "function" (s.word Aggregate.read) fun f =>
            { slots with function := some f }
        match name with
        | "function" => function
        | "fn" => function
        | "field" =>
          fill slots.field "field" s.optionalText fun f => { slots with field := some f }
        | "distinct" =>
          fill slots.distinct "distinct" s.flag fun d => { slots with distinct := some d }
        | "alias" =>
          fill slots.label "alias" s.optionalText fun a => { slots with label := some a }
        | _ => skip s slots
      finish := fun slots => do
        let function ← required slots.function "function"
        return .aggregate function (slots.field.getD none) (slots.distinct.getD false)
          (slots.label.getD none) }
  | .custom =>
    { Slots := SelectSlots
      empty := {}
      names := ["expression", "alias"]
      visit := fun slots name s =>
        match name with
        | "expression" =>
          fill slots.expression "expression" s.text fun e => { slots with expression := some e }
        | "alias" =>
          fill slots.label "alias" s.optionalText fun a => { slots with label := some a }
        | _ => skip s slots
      finish := fun slots => do
        let expression ← required slots.expression "expression"
        return .custom expression (slots.label.getD none) }

/-- Reads a SELECT entry. -/
def readSelectItem : Source → Except ReadFault SelectItem :=
  readTagged "SelectItem"
    [("column", .column), ("aggregate", .aggregate), ("custom", .custom)] selectReader

/-! ### WHERE -/

/-- The slots of a condition of any kind. -/
structure ConditionSlots where
  /-- The column. -/
  column : Option String := none
  /-- The operator. -/
  operator : Option Operator := none
  /-- The value. -/
  value : Option Json := none
  /-- The values. -/
  values : Option (List Json) := none
  /-- The subquery or expression. -/
  sql : Option String := none

/-- The kinds of conditions. -/
inductive ConditionKind where
  /-- A test of a column. -/
  | test
  /-- One of some values, or none. -/
  | membership (negated : Bool)
  /-- Between two values, or not. -/
  | range (negated : Bool)
  /-- A subquery has a row, or none. -/
  | subquery (negated : Bool)
  /-- A condition in SQL. -/
  | expression

/-- The reader of a condition on a column and a list of values. -/
def listReader (make : String → List Json → Condition) : RecordReader Condition :=
  { Slots := ConditionSlots
    empty := {}
    names := ["column", "values"]
    visit := fun slots name s =>
      let column := fill slots.column "column" s.text fun c => { slots with column := some c }
      match name with
      | "column" => column
      | "field" => column
      | "values" =>
        fill slots.values "values" (readValues s) fun vs => { slots with values := some vs }
      | _ => skip s slots
    finish := fun slots => do
      let column ← required slots.column "column"
      return make column (slots.values.getD []) }

/-- The reader of a condition in SQL, whose field also goes by another name. -/
def sqlReader (other : String) (make : String → Condition) : RecordReader Condition :=
  { Slots := ConditionSlots
    empty := {}
    names := ["sql"]
    visit := fun slots name s =>
      if name = "sql" ∨ name = other then
        fill slots.sql "sql" s.text fun q => { slots with sql := some q }
      else skip s slots
    finish := fun slots => do
      let sql ← required slots.sql "sql"
      return make sql }

/-- The reader of one kind of condition. -/
def conditionReader : ConditionKind → RecordReader Condition
  | .test =>
    { Slots := ConditionSlots
      empty := {}
      names := ["column", "operator", "value", "values"]
      visit := fun slots name s =>
        let column := fill slots.column "column" s.text fun c => { slots with column := some c }
        match name with
        | "column" => column
        | "field" => column
        | "operator" =>
          fill slots.operator "operator" (s.word Operator.read) fun o =>
            { slots with operator := some o }
        | "value" => fill slots.value "value" s.value fun v => { slots with value := some v }
        | "values" =>
          fill slots.values "values" (readValues s) fun vs => { slots with values := some vs }
        | _ => skip s slots
      finish := fun slots => do
        let column ← required slots.column "column"
        let operator ← required slots.operator "operator"
        return .test column operator (slots.value.getD .null) (slots.values.getD []) }
  | .membership negated => listReader (.membership negated)
  | .range negated => listReader (.range negated)
  | .subquery negated => sqlReader "existsQuery" (.subquery negated)
  | .expression => sqlReader "expression" .expression

/-- Reads a condition. -/
def readCondition : Source → Except ReadFault Condition :=
  readTagged "WhereCondition"
    [("column", .test), ("column_in", .membership false), ("column_not_in", .membership true),
      ("between", .range false), ("not_between", .range true), ("exists", .subquery false),
      ("not_exists", .subquery true), ("expression", .expression)] conditionReader

/-- The slots of a group. -/
structure GroupSlots where
  /-- The connector. -/
  connector : Option Connector := none
  /-- The conditions. -/
  conditions : Option (List Condition) := none

/-- The reader of a group. -/
def groupReader : RecordReader Group :=
  { Slots := GroupSlots
    empty := {}
    names := ["filterType", "conditions"]
    visit := fun slots name s =>
      match name with
      | "filterType" =>
        fill slots.connector "filterType" (s.word Connector.read) fun c =>
          { slots with connector := some c }
      | "conditions" =>
        fill slots.conditions "conditions" (s.items readCondition) fun cs =>
          { slots with conditions := some cs }
      | _ => skip s slots
    finish := fun slots =>
      .ok ⟨slots.connector.getD .and, slots.conditions.getD []⟩ }

/-- Reads a group of conditions. -/
def readGroup : Source → Except ReadFault Group := readRecord "WhereGroup" groupReader

/-! ### GROUP BY -/

/-- The kinds of entries that are a column or an expression. -/
inductive PlainKind where
  /-- A column. -/
  | column
  /-- An expression. -/
  | expression

/-- The slots of an entry with one text. -/
structure TextSlot where
  /-- The text. -/
  text : Option String := none

/-- The reader of an entry with one text, under the given name. -/
def textReader {α : Type} (field : String) (make : String → α) : RecordReader α :=
  { Slots := TextSlot
    empty := {}
    names := [field]
    visit := fun slots name s =>
      if name = field then fill slots.text field s.text fun t => { text := some t }
      else skip s slots
    finish := fun slots => (required slots.text field).map make }

/-- The reader of one kind of GROUP BY entry. -/
def groupItemReader : PlainKind → RecordReader GroupItem
  | .column => textReader "column" .column
  | .expression => textReader "expression" .expression

/-- Reads a GROUP BY entry. -/
def readGroupItem : Source → Except ReadFault GroupItem :=
  readTagged "GroupByItem" [("column", .column), ("expression", .expression)] groupItemReader

/-! ### HAVING -/

/-- The kinds of conditions on groups of rows. -/
inductive HavingKind where
  /-- A comparison of an aggregate. -/
  | aggregate
  /-- A condition in SQL. -/
  | expression

/-- The slots of a comparison of an aggregate. -/
structure HavingSlots where
  /-- The function. -/
  function : Option Aggregate := none
  /-- The aggregated column. -/
  field : Option (Option String) := none
  /-- The operator. -/
  operator : Option Operator := none
  /-- The value. -/
  value : Option Json := none

/-- The reader of one kind of condition on groups of rows. -/
def havingReader : HavingKind → RecordReader HavingItem
  | .aggregate =>
    { Slots := HavingSlots
      empty := {}
      names := ["function", "field", "operator", "value"]
      visit := fun slots name s =>
        let function :=
          fill slots.function "function" (s.word Aggregate.read) fun f =>
            { slots with function := some f }
        let field :=
          fill slots.field "field" s.optionalText fun f => { slots with field := some f }
        match name with
        | "function" => function
        | "fn" => function
        | "field" => field
        | "column" => field
        | "operator" =>
          fill slots.operator "operator" (s.word Operator.read) fun o =>
            { slots with operator := some o }
        | "value" => fill slots.value "value" s.value fun v => { slots with value := some v }
        | _ => skip s slots
      finish := fun slots => do
        let function ← required slots.function "function"
        let operator ← required slots.operator "operator"
        return .aggregate function (slots.field.getD none) operator (slots.value.getD .null) }
  | .expression => textReader "expression" .expression

/-- Reads a condition on groups of rows. -/
def readHavingItem : Source → Except ReadFault HavingItem :=
  readTagged "HavingItem" [("aggregate", .aggregate), ("expression", .expression)] havingReader

/-! ### ORDER BY -/

/-- The slots of an ORDER BY entry; an expression may have `null` for its direction. -/
structure OrderSlots where
  /-- The column or expression. -/
  text : Option String := none
  /-- The direction. -/
  direction : Option (Option Direction) := none

/-- Reads a direction or `null`. -/
def readOptionalDirection : Source → Except ReadFault (Option Direction)
  | .null => .ok none
  | s => (s.word Direction.read).map some

/-- The reader of an ORDER BY entry, given the name of its text, how its direction is read and how
it is made. -/
def orderReader (field : String) (direction : Source → Except ReadFault (Option Direction))
    (make : String → Option Direction → OrderItem) : RecordReader OrderItem :=
  { Slots := OrderSlots
    empty := {}
    names := [field, "direction"]
    visit := fun slots name s =>
      if name = field then fill slots.text field s.text fun t => { slots with text := some t }
      else if name = "direction" then
        fill slots.direction "direction" (direction s) fun d => { slots with direction := some d }
      else skip s slots
    finish := fun slots => do
      let text ← required slots.text field
      return make text (slots.direction.getD none) }

/-- The reader of one kind of ORDER BY entry. -/
def orderItemReader : PlainKind → RecordReader OrderItem
  | .column =>
    orderReader "column" (fun s => (s.word Direction.read).map some) fun column direction =>
      .column column (direction.getD .asc)
  | .expression => orderReader "expression" readOptionalDirection .expression

/-- Reads an ORDER BY entry. -/
def readOrderItem : Source → Except ReadFault OrderItem :=
  readTagged "OrderByItem" [("column", .column), ("expression", .expression)] orderItemReader

/-! ### The model -/

/-- Reads a limit: an integer or `null`. -/
def readLimit : Source → Except ReadFault (Option Int64)
  | .null => .ok none
  | s => s.int64.map some

/-- The slots of a query model. -/
structure QuerySlots where
  /-- The SELECT list. -/
  select : Option (List SelectItem) := none
  /-- The groups of conditions. -/
  filters : Option (List Group) := none
  /-- The GROUP BY list. -/
  groupBy : Option (List GroupItem) := none
  /-- The conditions on groups of rows. -/
  having : Option (List HavingItem) := none
  /-- The ORDER BY list. -/
  orderBy : Option (List OrderItem) := none
  /-- The limit. -/
  limit : Option (Option Int64) := none

/-- The reader of a query model. -/
def queryReader : RecordReader QueryModel :=
  { Slots := QuerySlots
    empty := {}
    names := ["select", "filters", "groupBy", "having", "orderBy", "limit"]
    visit := fun slots name s =>
      let filters :=
        fill slots.filters "filters" (s.items readGroup) fun gs =>
          { slots with filters := some gs }
      match name with
      | "select" =>
        fill slots.select "select" (s.items readSelectItem) fun is =>
          { slots with select := some is }
      | "filters" => filters
      | "where" => filters
      | "groupBy" =>
        fill slots.groupBy "groupBy" (s.items readGroupItem) fun is =>
          { slots with groupBy := some is }
      | "having" =>
        fill slots.having "having" (s.items readHavingItem) fun is =>
          { slots with having := some is }
      | "orderBy" =>
        fill slots.orderBy "orderBy" (s.items readOrderItem) fun is =>
          { slots with orderBy := some is }
      | "limit" => fill slots.limit "limit" (readLimit s) fun l => { slots with limit := some l }
      | _ => skip s slots
    finish := fun slots =>
      .ok
        { select := slots.select.getD []
          filters := slots.filters.getD []
          groupBy := slots.groupBy.getD []
          having := slots.having.getD []
          orderBy := slots.orderBy.getD []
          limit := slots.limit.getD none } }

/-- Reads a query model. -/
def readQueryModel : Source → Except ReadFault QueryModel := readRecord "QueryModel" queryReader

end BoundQuery
