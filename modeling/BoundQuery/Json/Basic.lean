import BoundQuery.Keyed
import BoundQuery.Decimal.Double

/-!
# Data values

A `Json` is a data value in canonical form: the fields of an object stand in the order of their
names, each name once.

* `Json`: the values.
* `Json.int64?`, `Json.double?`: a number as a machine integer or as a double.
* `Json.field?`, `Json.element?`: one step into an object or an array.
-/

namespace BoundQuery

/-- A data value. -/
inductive Json where
  /-- The value that stands for no value. -/
  | null
  /-- A truth value. -/
  | bool (value : Bool)
  /-- A number written without point and exponent. -/
  | integer (value : Int)
  /-- Any other number. -/
  | real (value : Double)
  /-- A text. -/
  | string (value : String)
  /-- A list of values. -/
  | array (items : List Json)
  /-- Values by name, in the order of the names. -/
  | object (fields : List (String × Json))

namespace Json

/-- The object with the given fields; of two fields with one name the later counts. -/
def record (fields : List (String × Json)) : Json := .object (Keyed.ofList fields)

/-- The number of a count. -/
def ofNat (n : Nat) : Json := .integer n

/-- A double as a number; what is not finite has no number. -/
def ofDouble (x : Double) : Json := if x.isFinite then .real x else .null

/-- An optional text, where `null` stands for none. -/
def ofOption : Option String → Json
  | some s => .string s
  | none => .null

/-- Whether the value is `null`. -/
def isNull : Json → Bool
  | .null => true
  | _ => false

/-- Whether the value is an object. -/
def isObject : Json → Bool
  | .object _ => true
  | _ => false

/-- The number as an integer of 64 signed bits. A number with a point never is one. -/
def int64? : Json → Option Int64
  | .integer i => int64OfInt? i
  | _ => none

/-- The number as a double. -/
def double? : Json → Option Double
  | .integer i => some (Double.ofInt i)
  | .real x => some x
  | _ => none

/-- The field of an object; nothing else has fields. -/
def field? (name : String) : Json → Option Json
  | .object fields => Keyed.get? name fields
  | _ => none

/-- The element of an array; nothing else has elements. -/
def element? (index : Nat) : Json → Option Json
  | .array items => items[index]?
  | _ => none

end Json

end BoundQuery
