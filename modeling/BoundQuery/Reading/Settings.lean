import BoundQuery.Reading.Step
import BoundQuery.Settings
import BoundQuery.Toml.Document

/-!
# Reading settings

* `Settings.parse`: the settings that a document holds.
* `readSettingsText`: anything else that a document of the same kind holds.
-/

namespace BoundQuery

/-- Why a settings document cannot be used. -/
inductive SettingsFault where
  /-- It is not well formed. -/
  | malformed
  /-- What it holds is not what is wanted. -/
  | content (fault : ReadFault)

/-- The text of the fault. -/
def SettingsFault.message : SettingsFault → String
  | .malformed => "malformed document"
  | .content fault => fault.message

/-- The slots of settings. -/
structure SettingsSlots where
  /-- The URL. -/
  databaseUrl : Option (Option String) := none
  /-- The dialect. -/
  dialect : Option (Option Dialect) := none
  /-- The path of a schema document. -/
  schemaPath : Option (Option String) := none
  /-- For how long tables are kept. -/
  schemaCacheSeconds : Option UInt64 := none
  /-- What holds for runs. -/
  pipeline : Option RunSettings := none

/-- The reader of settings. -/
def settingsReader : RecordReader Settings :=
  { Slots := SettingsSlots
    empty := {}
    names := ["database_url", "dialect", "schema_path", "schema_cache_ttl_secs", "pipeline"]
    visit := fun slots name s =>
      match name with
      | "database_url" =>
        fill slots.databaseUrl "database_url" s.optionalText fun u =>
          { slots with databaseUrl := some u }
      | "dialect" =>
        fill slots.dialect "dialect" ((readDialect .settings s).map some) fun d =>
          { slots with dialect := some d }
      | "schema_path" =>
        fill slots.schemaPath "schema_path" s.optionalText fun p =>
          { slots with schemaPath := some p }
      | "schema_cache_ttl_secs" =>
        fill slots.schemaCacheSeconds "schema_cache_ttl_secs" (s.uint64 "u64") fun n =>
          { slots with schemaCacheSeconds := some n }
      | "pipeline" =>
        fill slots.pipeline "pipeline" (readRunSettings .settings s) fun r =>
          { slots with pipeline := some r }
      | _ => skip s slots
    finish := fun slots =>
      let default : Settings := {}
      .ok
        { databaseUrl := slots.databaseUrl.getD none
          dialect := slots.dialect.getD none
          schemaPath := slots.schemaPath.getD none
          schemaCacheSeconds := slots.schemaCacheSeconds.getD default.schemaCacheSeconds
          pipeline := slots.pipeline.getD default.pipeline } }

/-- Reads a model from a settings document. -/
def readSettingsText {α : Type} (read : Source → Except ReadFault α) (s : String) :
    Except SettingsFault α :=
  match Toml.parse? s with
  | none => .error .malformed
  | some source => (read source).mapError .content

/-- The settings that a document holds. -/
def Settings.parse (s : String) : Except SettingsFault Settings :=
  readSettingsText (readRecord "Settings" settingsReader) s

end BoundQuery
