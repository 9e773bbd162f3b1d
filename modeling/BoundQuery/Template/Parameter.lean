import BoundQuery.BindValue
import BoundQuery.Calendar.Reader
import BoundQuery.Decimal.Reader

/-!
# Parameters

A parameter is a data value with a declared kind. Normalizing turns it into what a placeholder
takes: one bind value, a list of them, or SQL text.

* `ParameterKind`, `Parameter`: as given by the caller.
* `Argument`: as matched with a placeholder.
* `normalize`, `normalizeScalar`: from the one to the other.
* `numberOfText?`: the rule for numbers written as text.
-/

namespace BoundQuery

open Text

/-- The declared kind of a parameter. -/
inductive ParameterKind where
  /-- A text. -/
  | string
  /-- A number. -/
  | number
  /-- A truth value. -/
  | boolean
  /-- A moment. -/
  | date
  /-- No value, whatever is given. -/
  | null
  /-- SQL text. -/
  | sql
deriving DecidableEq

/-- The word for the kind. -/
def ParameterKind.name : ParameterKind → String
  | .string => "string"
  | .number => "number"
  | .boolean => "boolean"
  | .date => "date"
  | .null => "null"
  | .sql => "sql"

/-- A parameter as given by the caller. -/
structure Parameter where
  /-- The declared kind. -/
  kind : ParameterKind
  /-- The value, perhaps with references to earlier results. -/
  value : Json

/-- A normalized parameter. -/
inductive Argument where
  /-- One value. -/
  | scalar (value : BindValue)
  /-- Several values. -/
  | list (values : List BindValue)
  /-- SQL text that takes the place of a placeholder. -/
  | sql (text : String)
deriving DecidableEq

/-- A value that cannot be what its parameter or column wants. -/
inductive ValueFault where
  /-- A parameter wants a number. -/
  | notNumber (value : Json)
  /-- A parameter wants a moment. -/
  | notDate (value : Json)
  /-- A column wants a number. -/
  | columnNotNumber (column : String) (value : Json)
  /-- A column wants a date as text. -/
  | columnNotDate (column : String)
  /-- Something else wants a number. -/
  | otherNotNumber (what : String) (value : Json)

/-- The text of the fault. -/
def ValueFault.message : ValueFault → String
  | .notNumber v => "Expected a number, got " ++ v.compact
  | .notDate v => "Invalid date: " ++ v.compact
  | .columnNotNumber c v => "Column \"" ++ c ++ "\" expects NUMBER, got \"" ++ v.text ++ "\""
  | .columnNotDate c => "Column \"" ++ c ++ "\" expects DATE string"
  | .otherNotNumber w v => w ++ " expects NUMBER, got \"" ++ v.text ++ "\""

/-! ### Scalars -/

/-- The number that a text writes, blanks around it aside: an integer if it is written as one and
fits 64 bits, else a finite double. -/
def numberOfText? (s : String) : Option BindValue :=
  let cs := trimChars s.toList
  match int64? cs with
  | some i => some (.int i)
  | none => (Double.finite? cs).map .float

/-- The number that a number of data is: an integer if it fits 64 signed bits, else a double. -/
def numberOfJson? (v : Json) : Option BindValue :=
  match v.int64? with
  | some i => some (.int i)
  | none => v.double?.map .float

/-- A value as a number: a number, a text that writes one, or a truth value as 0 or 1. -/
def asNumber (v : Json) : Except ValueFault BindValue :=
  let number? : Option BindValue :=
    match v with
    | .string s => numberOfText? s
    | .bool b => some (.int (if b then 1 else 0))
    | v => numberOfJson? v
  match number? with
  | some n => .ok n
  | none => .error (.notNumber v)

/-- Whether a value counts as true: `true`, the integer 1, or one of the texts `true` and `1`. -/
def isTrue : Json → Bool
  | .bool b => b
  | .string s => s = "true" || s = "1"
  | .integer i => i = 1
  | _ => false

/-- A value as a moment: a number of milliseconds since the start of 1970, or a text that writes
a timestamp. -/
def asTimestamp (v : Json) : Except ValueFault Timestamp :=
  let timestamp? : Option Timestamp :=
    match v with
    | .string s => Timestamp.ofText? s
    | v => v.int64?.bind fun i => Timestamp.ofMillis? i.toInt
  match timestamp? with
  | some t => .ok t
  | none => .error (.notDate v)

/-- Normalizes one value. A text is never absent: `null` becomes the empty one. For the other
kinds `null` stays no value. -/
def normalizeScalar (kind : ParameterKind) (v : Json) : Except ValueFault BindValue :=
  match kind with
  | .string => .ok (.text v.text)
  | .sql => .ok (.text v.text)
  | .null => .ok .null
  | .number => if v.isNull then .ok .null else asNumber v
  | .boolean => if v.isNull then .ok .null else .ok (.bool (isTrue v))
  | .date => if v.isNull then .ok .null else (asTimestamp v).map .timestamp

/-- Why a parameter cannot be normalized. -/
inductive NormalizeFault where
  /-- A list of SQL texts has no meaning. -/
  | sqlList
  /-- A value does not fit the kind. -/
  | value (fault : ValueFault)

/-- Normalizes a parameter. Each item of an array is normalized by itself. -/
def normalize (kind : ParameterKind) (v : Json) : Except NormalizeFault Argument :=
  match kind, v with
  | .sql, .array _ => .error .sqlList
  | .sql, v => .ok (.sql v.text)
  | kind, .array items =>
    match items.mapM (normalizeScalar kind) with
    | .ok values => .ok (.list values)
    | .error fault => .error (.value fault)
  | kind, v =>
    match normalizeScalar kind v with
    | .ok value => .ok (.scalar value)
    | .error fault => .error (.value fault)

end BoundQuery
