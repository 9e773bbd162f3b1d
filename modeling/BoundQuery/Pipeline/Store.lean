import BoundQuery.BindValue
import BoundQuery.Schema.Document
import BoundQuery.Schema.Table

/-!
# Stores

A `Store` is what a run sends its statements to. It is given by its answers: every call takes the
state of the store to an answer and a new state.

* `Store`: the four calls.
* `Call`: a call as the log of a run shows it.
* `Store.scripted`: a store whose answers are fixed in advance.
* `Store.closed`: a store that executes nothing.
-/

namespace BoundQuery

/-- What a store reports when a call fails. -/
inductive StoreFault where
  /-- A table is unknown. -/
  | table (fault : UnknownTable)
  /-- A column is unknown. -/
  | column (fault : UnknownColumn)
  /-- The statement has the wrong shape. -/
  | shape (text : String)
  /-- A value does not fit. -/
  | value (text : String)
  /-- The statement is rejected. -/
  | rejected (text : String)
  /-- The state of the transaction does not allow the call. -/
  | transaction (text : String)
  /-- There is no connection. -/
  | connection (text : String)
  /-- The settings of the store are wrong. -/
  | settings (text : String)
  /-- Reading or writing failed. -/
  | io (text : String)
  /-- Any other failure. -/
  | database (text : String)
deriving DecidableEq

/-- The text of the fault. -/
def StoreFault.message : StoreFault → String
  | .table fault => fault.message
  | .column fault => fault.message
  | .shape text => text
  | .value text => "Invalid value: " ++ text
  | .rejected text => "Statement rejected: " ++ text
  | .transaction text => "Transaction error: " ++ text
  | .connection text => "Connection error: " ++ text
  | .settings text => "Configuration error: " ++ text
  | .io text => "IO error: " ++ text
  | .database text => "Database error: " ++ text

/-- A call to a store. -/
inductive Call where
  /-- Opens a transaction. -/
  | begin
  /-- Executes a statement with its values, for at most so many rows. -/
  | execute (sql : String) (values : List BindValue) (rowLimit : UInt64)
  /-- Makes the effects of the transaction permanent. -/
  | commit
  /-- Undoes the effects of the transaction. -/
  | rollback
deriving DecidableEq

/-- A store whose states are of type `σ`. -/
structure Store (σ : Type) where
  /-- Opens a transaction. -/
  begin : σ → Except StoreFault Unit × σ
  /-- Executes a statement with its values, for at most so many rows. -/
  execute : σ → String → List BindValue → UInt64 → Except StoreFault Json × σ
  /-- Makes the effects of the transaction permanent. -/
  commit : σ → Except StoreFault Unit × σ
  /-- Undoes the effects of the transaction. -/
  rollback : σ → Except StoreFault Unit × σ

namespace Store

/-- The answer to a statement that changed no rows. -/
def noRows : Json := .record [("rowsAffected", .integer 0)]

/-- A store whose answers are fixed. Its state is the list of the answers to the statements to
come; after the last one no statement changes any rows. -/
def scripted (begin commit rollback : Except StoreFault Unit) :
    Store (List (Except StoreFault Json)) where
  begin replies := (begin, replies)
  execute replies _ _ _ :=
    match replies with
    | [] => (.ok noRows, [])
    | reply :: rest => (reply, rest)
  commit replies := (commit, replies)
  rollback replies := (rollback, replies)

/-- A store that executes nothing. -/
def closed : Store Unit where
  begin s := (.ok (), s)
  execute s _ _ _ := (.error (.connection "no database in preview mode"), s)
  commit s := (.ok (), s)
  rollback s := (.ok (), s)

end Store

end BoundQuery
