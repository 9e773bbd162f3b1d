import BoundQuery.Settings
import BoundQuery.Writing.Step

/-!
# Writing settings
-/

namespace BoundQuery

/-- Settings as data. -/
def Settings.toJson (s : Settings) : Json :=
  .record [("database_url", .ofOption s.databaseUrl),
    ("dialect", .ofOption (s.dialect.map Dialect.name)), ("schema_path", .ofOption s.schemaPath),
    ("schema_cache_ttl_secs", .ofNat s.schemaCacheSeconds.toNat),
    ("pipeline", s.pipeline.toJson)]

end BoundQuery
