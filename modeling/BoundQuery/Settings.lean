import BoundQuery.Pipeline.Step
import BoundQuery.Query.Words

/-!
# Settings

What a user sets once for all commands.

* `Settings`: the settings, with their defaults.
* `Settings.effectiveDialect`: the dialect that they mean.
-/

namespace BoundQuery

/-- What a user sets once for all commands. -/
structure Settings where
  /-- The URL of the store. -/
  databaseUrl : Option String := none
  /-- The dialect, whatever the URL says. -/
  dialect : Option Dialect := none
  /-- The path of a schema document. -/
  schemaPath : Option String := none
  /-- For how many seconds tables are kept. -/
  schemaCacheSeconds : UInt64 := 600
  /-- What holds for runs. -/
  pipeline : RunSettings := {}
deriving DecidableEq

/-- The dialect that is set, else the one that the URL suggests, else the default. -/
def Settings.effectiveDialect (s : Settings) : Dialect :=
  s.dialect.getD ((s.databaseUrl.map Dialect.ofUrl).getD .db2)

end BoundQuery
