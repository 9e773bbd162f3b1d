import BoundQuery.Json.Fault
import BoundQuery.Json.Printer
import BoundQuery.Query.Words

/-!
# Faults of a model text

What can be wrong with a data text that should be a model, and how it is reported.

* `Found`: what stands where something else was expected.
* `ReadFault`: the faults; `ReadFault.message` is their text.
-/

namespace BoundQuery

open Text

/-- What was found in the place of something else. -/
inductive Found where
  /-- The value `null`. -/
  | null
  /-- A truth value. -/
  | bool (value : Bool)
  /-- An integer. -/
  | integer (value : Int)
  /-- Any other number. -/
  | real (value : Double)
  /-- A text. -/
  | string (value : String)
  /-- An array. -/
  | sequence
  /-- An object. -/
  | map
  /-- A word that should have come with a value. -/
  | unitVariant

/-- The description of what was found. -/
def Found.message : Found → String
  | .null => "null"
  | .bool b => "boolean `" ++ (if b then "true" else "false") ++ "`"
  | .integer i => "integer `" ++ toString i ++ "`"
  | .real x => "floating point `" ++ x.data ++ "`"
  | .string s => "string " ++ quoted s
  | .sequence => "sequence"
  | .map => "map"
  | .unitVariant => "unit variant"

/-- A fault of a model text. -/
inductive ReadFault where
  /-- A field that must be there is not. -/
  | missingField (name : String)
  /-- A field is there twice, perhaps under two names. -/
  | duplicateField (name : String)
  /-- A word is on none of the lists; `known` is the list. -/
  | unknownVariant (word : String) (known : List String)
  /-- Something of another kind stands here. -/
  | invalidType (found : Found) (expected : String)
  /-- Something of the right kind but with an impossible value stands here. -/
  | invalidValue (found : Found) (expected : String)
  /-- None of the forms of a type fits. -/
  | noForm (type : String)
  /-- A word of a query model is not known. -/
  | unknownWord (fault : WordFault)
  /-- An array has another number of items than the record that it should be has fields. -/
  | wrongLength (length : Nat) (expected : String)
  /-- The text is no data text. -/
  | malformed (fault : SyntaxFault)

/-- A list of words as a fault names them. -/
def oneOf : List String → String
  | [a] => "`" ++ a ++ "`"
  | [a, b] => "`" ++ a ++ "` or `" ++ b ++ "`"
  | words => "one of " ++ ", ".intercalate (words.map fun w => "`" ++ w ++ "`")

/-- The text of a fault. -/
def ReadFault.message : ReadFault → String
  | .missingField name => "missing field `" ++ name ++ "`"
  | .duplicateField name => "duplicate field `" ++ name ++ "`"
  | .unknownVariant word known => "unknown variant `" ++ word ++ "`, expected " ++ oneOf known
  | .invalidType found expected => "invalid type: " ++ found.message ++ ", expected " ++ expected
  | .invalidValue found expected => "invalid value: " ++ found.message ++ ", expected " ++ expected
  | .noForm type => "data did not match any variant of untagged enum " ++ type
  | .unknownWord fault => fault.message
  | .wrongLength length expected =>
    "invalid length " ++ toString length ++ ", expected " ++ expected
  | .malformed fault => fault.message

end BoundQuery
