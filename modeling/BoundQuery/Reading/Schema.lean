import BoundQuery.Schema.Document
import BoundQuery.Reading.Record

/-!
# Reading column listings and schema documents
-/

namespace BoundQuery

/-- The slots of a column listing of any kind. -/
structure ColumnSlots where
  /-- The name. -/
  name : Option String := none
  /-- The type, which may be `null` in a catalog. -/
  type : Option (Option String) := none

/-- The reader of a catalog row. -/
def catalogRowReader : RecordReader CatalogRow :=
  { Slots := ColumnSlots
    empty := {}
    names := ["COLNAME", "TYPENAME"]
    visit := fun slots name s =>
      if name = "COLNAME" ∨ name = "name" then
        fill slots.name "COLNAME" s.text fun n => { slots with name := some n }
      else if name = "TYPENAME" ∨ name = "type" then
        fill slots.type "TYPENAME" s.optionalText fun t => { slots with type := some t }
      else skip s slots
    finish := fun slots => do
      let name ← required slots.name "COLNAME"
      return ⟨name, slots.type.getD none⟩ }

/-- Reads a catalog row. -/
def readCatalogRow : Source → Except ReadFault CatalogRow :=
  readRecord "CatalogRow" catalogRowReader

/-- The slots of an option. -/
structure OptionSlots where
  /-- The value. -/
  value : Option Json := none
  /-- The description. -/
  description : Option (Option String) := none

/-- The reader of an option. -/
def columnOptionReader : RecordReader ColumnOption :=
  { Slots := OptionSlots
    empty := {}
    names := ["value", "description"]
    visit := fun slots name s =>
      match name with
      | "value" => fill slots.value "value" s.value fun v => { slots with value := some v }
      | "description" =>
        fill slots.description "description" s.optionalText fun d =>
          { slots with description := some d }
      | _ => skip s slots
    finish := fun slots => do
      let value ← required slots.value "value"
      return ⟨value, slots.description.getD none⟩ }

/-- Reads an option. -/
def readColumnOption : Source → Except ReadFault ColumnOption :=
  readRecord "ColumnOption" columnOptionReader

/-- The reader of a column definition. -/
def columnDefinitionReader : RecordReader ColumnDefinition :=
  { Slots := ColumnSlots
    empty := {}
    names := ["name", "type"]
    visit := fun slots name s =>
      if name = "name" then
        fill slots.name "name" s.text fun n => { slots with name := some n }
      else if name = "type" ∨ name = "typ" then
        fill slots.type "type" (s.text.map some) fun t => { slots with type := some t }
      else skip s slots
    finish := fun slots => do
      let name ← required slots.name "name"
      let type ← required slots.type.join "type"
      return ⟨name, type⟩ }

/-- Reads a column definition. -/
def readColumnDefinition : Source → Except ReadFault ColumnDefinition :=
  readRecord "ColumnDef" columnDefinitionReader

/-- Reads the tables of a document one after the other; of two with one name the later counts. -/
def readTables (tables : Keyed (List ColumnDefinition)) :
    List SourceField → Except ReadFault (Keyed (List ColumnDefinition))
  | [] => .ok tables
  | (.error fault, _) :: _ => .error (.malformed fault)
  | (.ok name, s) :: rest =>
    match s.items readColumnDefinition with
    | .error fault => .error fault
    | .ok definitions => readTables (tables.insert name definitions) rest

/-- Reads a schema document. -/
def readDocument : Source → Except ReadFault Document
  | .object fields breach =>
    match readTables [] fields with
    | .error fault => .error fault
    | .ok tables => Source.upTo breach ⟨tables⟩
  | s => .error (s.unexpected "a map")

/-- Reads a name and a type in an array of two. -/
def readNameAndType : Source → Except ReadFault (String × String)
  | .array items breach =>
    match items with
    | [name, type] => do
      let name ← name.text
      let type ← type.text
      Source.upTo breach (name, type)
    | name :: _ => do
      let _ ← name.text
      .error (.wrongLength items.length "a tuple of size 2")
    | [] => .error (.wrongLength 0 "a tuple of size 2")
  | s => .error (s.unexpected "a tuple of size 2")

end BoundQuery
