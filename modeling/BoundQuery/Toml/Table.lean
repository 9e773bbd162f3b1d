import BoundQuery.Json.Source

/-!
# Tables of a settings document

A document builds up tables step by step. A table may be opened by a header, implied by the header
of a table inside it, or come from keys with points between them; how it came to be decides what
may still be added to it.

* `Item`: what stands under a key.
* `addValue?`: puts a value under a path of keys in a table.
* `openTable?`, `openListed?`: what the two kinds of headers do.
* `Item.source`: the data that a finished item is.
-/

namespace BoundQuery.Toml

/-- How a table came to be. -/
inductive TableForm where
  /-- By a header of its own. -/
  | header
  /-- By the header of a table inside it. -/
  | implied
  /-- By keys with points between them. -/
  | dotted
deriving DecidableEq

/-- What stands under a key. -/
inductive Item where
  /-- A value, which is complete. -/
  | value (v : Source)
  /-- A table. -/
  | table (form : TableForm) (entries : List (String × Item))
  /-- A list of tables, of which the last may still grow. -/
  | tables (earlier : List (List (String × Item))) (last : List (String × Item))

/-- The entries of a table, in the order in which they came. -/
abbrev Entries := List (String × Item)

/-- The entries with an item under a key, in place of what was there. -/
def assign (name : String) (item : Item) : Entries → Entries
  | [] => [(name, item)]
  | (n, i) :: rest => if n = name then (name, item) :: rest else (n, i) :: assign name item rest

/-- Changes the table at the end of a path; `form` is that of the table with the given entries.
Tables on the way that do not exist yet come to be in the form `new`. A path of keys with points
does not enter a table that has a header. -/
def alter? (new : TableForm) (change : TableForm → Entries → Option Entries) :
    List String → TableForm → Entries → Option Entries
  | [], form, entries => change form entries
  | name :: path, _, entries =>
    match entries.lookup name with
    | none => (alter? new change path new []).map fun t => assign name (.table new t) entries
    | some (.value _) => none
    | some (.table form t) =>
      if new = .dotted ∧ form = .header then none
      else (alter? new change path form t).map fun t => assign name (.table form t) entries
    | some (.tables earlier last) =>
      (alter? new change path .header last).map fun t =>
        assign name (.tables earlier t) entries

/-- Puts an item under a key that is not taken yet. -/
def addItem? (name : String) (item : Item) (entries : Entries) : Option Entries :=
  if (entries.lookup name).isSome then none else some (entries ++ [(name, item)])

/-- Puts a value under a path of keys. With points between them, the keys must lead to a table that
such keys made. -/
def addValue? (path : List String) (v : Source) (form : TableForm) (entries : Entries) :
    Option Entries :=
  match path.getLast? with
  | none => none
  | some name =>
    let change (form : TableForm) (entries : Entries) : Option Entries :=
      if (form = .dotted) = (path.length = 1) then none else addItem? name (.value v) entries
    alter? .dotted change path.dropLast form entries

/-- Opens a table: it must be new or so far only implied. -/
def openTable? (path : List String) (root : Entries) : Option Entries :=
  match path.getLast? with
  | none => none
  | some name =>
    let change (_ : TableForm) (entries : Entries) : Option Entries :=
      match entries.lookup name with
      | none => some (entries ++ [(name, .table .header [])])
      | some (.table .implied t) => some (assign name (.table .header t) entries)
      | some _ => none
    alter? .implied change path.dropLast .header root

/-- Opens one more table of a list of tables. -/
def openListed? (path : List String) (root : Entries) : Option Entries :=
  match path.getLast? with
  | none => none
  | some name =>
    let change (_ : TableForm) (entries : Entries) : Option Entries :=
      match entries.lookup name with
      | none => some (entries ++ [(name, .tables [] [])])
      | some (.tables earlier last) =>
        some (assign name (.tables (earlier ++ [last]) []) entries)
      | some _ => none
    alter? .implied change path.dropLast .header root

/-- Puts a value under a path of keys in the table that a header opened. -/
def addWithin? (header path : List String) (v : Source) (root : Entries) : Option Entries :=
  alter? .implied (addValue? path v) header .header root

mutual

/-- The data that an item is. -/
def Item.source : Item → Source
  | .value v => v
  | .table _ entries => .object (entriesSource entries) none
  | .tables earlier last =>
    .array (tablesSource earlier ++ [.object (entriesSource last) none]) none

/-- The fields that entries are. -/
def entriesSource : List (String × Item) → List (Except SyntaxFault String × Source)
  | [] => []
  | (name, item) :: rest => (.ok name, item.source) :: entriesSource rest

/-- The objects that tables are. -/
def tablesSource : List (List (String × Item)) → List Source
  | [] => []
  | entries :: rest => .object (entriesSource entries) none :: tablesSource rest

end

end BoundQuery.Toml
