import BoundQuery.Json.Basic
import BoundQuery.Decimal.Reader
import BoundQuery.Text.Blank

/-!
# The context of a run

A `Context` holds the results of earlier steps by name.

* `outputName`: the name under which a step publishes its result.
* `Context.insert`, `Context.get?`: one name.
* `Context.lookup?`: a path of names and indices with points between them.
-/

namespace BoundQuery

open Text

/-- The name under which the step with an index publishes its result. -/
def outputName (index : Nat) : String := "output" ++ toString index

/-- Results by name. -/
structure Context where
  /-- The results. -/
  outputs : Keyed Json

namespace Context

/-- The context without results. -/
def empty : Context := ⟨[]⟩

/-- The context with a result under a name. -/
def insert (c : Context) (name : String) (value : Json) : Context :=
  ⟨c.outputs.insert name value⟩

/-- The result under a name. -/
def get? (c : Context) (name : String) : Option Json := c.outputs.get? name

/-- One segment of a path: the field of an object, or the element of an array at an index. -/
def step? (value : Json) (segment : List Char) : Option Json :=
  match value with
  | .object _ => value.field? (String.ofList segment)
  | .array _ => (uint64? segment).bind fun index => value.element? index.toNat
  | _ => none

/-- Follows segments, each without the blanks around it. -/
def follow? (value : Json) : List (List Char) → Option Json
  | [] => some value
  | segment :: rest =>
    match step? value (trimChars segment) with
    | some inner => follow? inner rest
    | none => none

/-- What a path leads to. Blanks around the path and around each segment do not count. -/
def lookup? (c : Context) (path : List Char) : Option Json :=
  match (trimChars path).splitOn '.' with
  | [] => none
  | name :: rest =>
    match c.get? (String.ofList (trimChars name)) with
    | some value => follow? value rest
    | none => none

/-- The number of results. -/
def size (c : Context) : Nat := c.outputs.length

/-- All results as one object. -/
def snapshot (c : Context) : Json := .object c.outputs

end Context

end BoundQuery
