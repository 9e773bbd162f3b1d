import BoundQuery.Schema.Column
import BoundQuery.Template.Parameter

/-!
# Casting filter values

* `castValue`: a value as the column that it is compared with wants it.
* `castNumber`: a value that must be a number, whatever the column.
-/

namespace BoundQuery

open Text

/-- A text without one pair of equal quotes around it. -/
def stripQuotes (cs : List Char) : List Char :=
  match cs with
  | q :: rest =>
    if (q = '\x27' ∨ q = '"') ∧ rest.getLast? = some q then rest.dropLast else cs
  | [] => []

/-- A value as a number: a number, or a text that writes one. -/
def toNumber? : Json → Option BindValue
  | .string s => numberOfText? s
  | v => numberOfJson? v

/-- A text without blanks and one pair of quotes around it; any other value as it is. -/
def unwrap : Json → Json
  | .string s => .string (String.ofList (stripQuotes (trimChars s.toList)))
  | v => v

/-- Casts a value that is not `null`, after unwrapping it: a column of numbers wants a number, one
of dates wants a text, and any other takes the text of the value. -/
def castUnwrapped (c : Column) (v : Json) : Except ValueFault BindValue :=
  if c.isNumeric then
    match toNumber? v with
    | some n => .ok n
    | none => .error (.columnNotNumber c.name v)
  else if c.isDate then
    match v with
    | .string s => .ok (.text s)
    | _ => .error (.columnNotDate c.name)
  else .ok (.text v.text)

/-- Casts a value for a column; `null` is no value for all of them. -/
def castValue (c : Column) (v : Json) : Except ValueFault BindValue :=
  match v with
  | .null => .ok .null
  | v => castUnwrapped c (unwrap v)

/-- Casts a value that must be a number; `what` names it in a report. -/
def castNumber (what : String) (v : Json) : Except ValueFault BindValue :=
  match toNumber? v with
  | some n => .ok n
  | none => .error (.otherNotNumber what v)

end BoundQuery
