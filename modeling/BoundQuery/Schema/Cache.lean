import BoundQuery.Schema.Document

/-!
# Keeping tables for a while

Looking up the columns of a table in a store is expensive, so a table is kept for some time.

* `TableCache`: tables by key, each with the moment at which it is no longer fresh, a clock, and
  counts of what was found and what was not.
* `Resolver`: a cache in front of something that resolves tables.
* `Resolver.resolve`: a fresh table from the cache, else one from behind it.

Moments are milliseconds on the clock of the cache.
-/

namespace BoundQuery

open Text

/-- A table and how long it is fresh. -/
structure CacheEntry where
  /-- The table. -/
  table : Table
  /-- The first moment at which the table is no longer fresh. -/
  expiresAt : Nat
deriving DecidableEq

/-- Tables kept for a while. Durations, moments and counts have no upper bound here: that a moment
can lie past the last one of the clock, where putting a table would abort, and that the counts start
again at zero after 64 bits, is left out. -/
structure TableCache where
  /-- The entries by key. -/
  entries : Keyed CacheEntry
  /-- How long a table is fresh. -/
  ttl : Nat
  /-- The present moment. -/
  now : Nat
  /-- How often a fresh table was found. -/
  hits : Nat
  /-- How often none was found. -/
  misses : Nat
deriving DecidableEq

namespace TableCache

/-- The cache without entries. -/
def empty (ttl : Nat) : TableCache := ⟨[], ttl, 0, 0, 0⟩

/-- The key of a table in a namespace, the same for all spellings in upper and lower case. -/
def key (space table : String) : String := upper (trim space ++ "." ++ trim table)

/-- The fresh table under a key. An entry that is no longer fresh is dropped. -/
def get (c : TableCache) (key : String) : Option Table × TableCache :=
  match c.entries.get? key with
  | some entry =>
    if c.now < entry.expiresAt then (some entry.table, { c with hits := c.hits + 1 })
    else (none, { c with entries := c.entries.erase key, misses := c.misses + 1 })
  | none => (none, { c with misses := c.misses + 1 })

/-- Puts a table under a key, fresh from now on. -/
def put (c : TableCache) (key : String) (table : Table) : TableCache :=
  { c with entries := c.entries.insert key ⟨table, c.now + c.ttl⟩ }

/-- Drops the entry under a key. -/
def invalidate (c : TableCache) (key : String) : TableCache :=
  { c with entries := c.entries.erase key }

/-- Lets time pass. -/
def advance (c : TableCache) (millis : Nat) : TableCache := { c with now := c.now + millis }

/-- The number of entries. -/
def size (c : TableCache) : Nat := c.entries.length

end TableCache

/-- A cache in front of something that resolves tables. -/
structure Resolver where
  /-- The namespace of the tables. -/
  space : String
  /-- The cache. -/
  cache : TableCache
  /-- How often what is behind the cache was asked. -/
  calls : Nat
deriving DecidableEq

namespace Resolver

/-- A resolver with an empty cache. -/
def empty (space : String) (ttl : Nat) : Resolver := ⟨space, .empty ttl, 0⟩

/-- The key of a table. -/
def key (r : Resolver) (table : String) : String := TableCache.key r.space table

/-- Asks what is behind the cache and keeps a table that it gives. -/
def ask {ε : Type} (r : Resolver) (inner : String → Except ε Table) (table : String) :
    Except ε Table × Resolver :=
  match inner table with
  | .ok t => (.ok t, { r with cache := r.cache.put (r.key table) t, calls := r.calls + 1 })
  | .error e => (.error e, { r with calls := r.calls + 1 })

/-- Resolves a table through the cache. To refresh it is to drop it from the cache first. -/
def resolve {ε : Type} (r : Resolver) (inner : String → Except ε Table) (table : String)
    (refresh : Bool) : Except ε Table × Resolver :=
  if refresh then
    { r with cache := r.cache.invalidate (r.key table) }.ask inner table
  else
    match r.cache.get (r.key table) with
    | (some t, cache) => (.ok t, { r with cache })
    | (none, cache) => { r with cache }.ask inner table

/-- Drops a table from the cache. -/
def invalidate (r : Resolver) (table : String) : Resolver :=
  { r with cache := r.cache.invalidate (r.key table) }

/-- Lets time pass. -/
def advance (r : Resolver) (millis : Nat) : Resolver := { r with cache := r.cache.advance millis }

end Resolver

end BoundQuery
