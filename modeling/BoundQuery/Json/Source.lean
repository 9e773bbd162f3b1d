import BoundQuery.Json.Basic
import BoundQuery.Json.Fault

/-!
# Data texts as written

A `Source` is what a data text says, in the order in which it says it: fields may repeat, and a
breach stands in the tree where the text stops making sense. A reader of models walks the tree from
left to right, so that of several faults the first one met is reported.

* `Source.read`: the data value, or the first fault met.
* `Source.skipFault?`: the fault met by who only passes over a value.
* `Source.ofJson`: a data value as a tree.
-/

namespace BoundQuery

/-- A data text as a tree. -/
inductive Source where
  /-- The word `null`. -/
  | null
  /-- One of the words `true` and `false`. -/
  | bool (value : Bool)
  /-- A number without point and exponent that fits 64 bits, signed or not. -/
  | integer (value : Int)
  /-- Any other number. -/
  | real (value : Double)
  /-- A text in quotes. -/
  | string (value : String)
  /-- Items up to the closing bracket, or up to a breach. -/
  | array (items : List Source) (breach : Option Breach)
  /-- Fields up to the closing brace, or up to a breach. A name may be well formed without being a
  text, because of an unpaired surrogate. -/
  | object (fields : List (Except SyntaxFault String × Source)) (breach : Option Breach)
  /-- Well formed, but without a value: a number beyond the range of doubles, an unpaired
  surrogate, or brackets nested too deeply. -/
  | valueless (fault : SyntaxFault)
  /-- A place where no value can be read. -/
  | broken (breach : Breach)

namespace Source

mutual

/-- The fault met in a value by who passes over it. -/
def skipFault? : Source → Option SyntaxFault
  | .null => none
  | .bool _ => none
  | .integer _ => none
  | .real _ => none
  | .string _ => none
  | .array items breach => (skipItems? items).or (breach.map Breach.skipped)
  | .object fields breach => (skipFields? fields).or (breach.map Breach.skipped)
  | .valueless _ => none
  | .broken breach => some breach.skipped

/-- The fault met in items by who passes over them. -/
def skipItems? : List Source → Option SyntaxFault
  | [] => none
  | s :: rest => (skipFault? s).or (skipItems? rest)

/-- The fault met in fields by who passes over them. -/
def skipFields? : List (Except SyntaxFault String × Source) → Option SyntaxFault
  | [] => none
  | (_, s) :: rest => (skipFault? s).or (skipFields? rest)

end

mutual

/-- The data value of a tree, or the first fault in it; of two fields with one name the later
counts. A double that is not finite has no number and becomes `null`. -/
def read : Source → Except SyntaxFault Json
  | .null => .ok .null
  | .bool b => .ok (.bool b)
  | .integer i => .ok (.integer i)
  | .real x => .ok (.ofDouble x)
  | .string s => .ok (.string s)
  | .array items breach =>
    match readItems items, breach with
    | .error fault, _ => .error fault
    | .ok vs, none => .ok (.array vs)
    | .ok _, some breach => .error breach.fault
  | .object fields breach =>
    match readFields fields, breach with
    | .error fault, _ => .error fault
    | .ok vs, none => .ok (Json.record vs)
    | .ok _, some breach => .error breach.fault
  | .valueless fault => .error fault
  | .broken breach => .error breach.fault

/-- The data values of items, or the first fault in them. -/
def readItems : List Source → Except SyntaxFault (List Json)
  | [] => .ok []
  | s :: rest =>
    match read s, readItems rest with
    | .error fault, _ => .error fault
    | .ok _, .error fault => .error fault
    | .ok v, .ok vs => .ok (v :: vs)

/-- The data values of fields, or the first fault in them. -/
def readFields : List (Except SyntaxFault String × Source) →
    Except SyntaxFault (List (String × Json))
  | [] => .ok []
  | (name, s) :: rest =>
    match name, read s, readFields rest with
    | .error fault, _, _ => .error fault
    | .ok _, .error fault, _ => .error fault
    | .ok _, .ok _, .error fault => .error fault
    | .ok n, .ok v, .ok vs => .ok ((n, v) :: vs)

end

mutual

/-- A data value as a tree without faults. -/
def ofJson : Json → Source
  | .null => .null
  | .bool b => .bool b
  | .integer i => .integer i
  | .real x => .real x
  | .string s => .string s
  | .array items => .array (ofItems items) none
  | .object fields => .object (ofFields fields) none

/-- Data values as trees. -/
def ofItems : List Json → List Source
  | [] => []
  | v :: rest => ofJson v :: ofItems rest

/-- Fields as trees. -/
def ofFields : List (String × Json) → List (Except SyntaxFault String × Source)
  | [] => []
  | (name, v) :: rest => (.ok name, ofJson v) :: ofFields rest

end

end Source

end BoundQuery
