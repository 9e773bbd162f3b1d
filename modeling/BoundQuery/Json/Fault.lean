/-!
# Faults of data texts

* `SyntaxFault`: why a text is no data text; `SyntaxFault.message` is the report.
* `Breach`: a place where a text stops making sense.
-/

namespace BoundQuery

/-- Why a text is no data text. -/
inductive SyntaxFault where
  /-- The text ends within an array. -/
  | endInArray
  /-- The text ends within an object. -/
  | endInObject
  /-- The text ends within a quoted text. -/
  | endInText
  /-- The text ends where a value should stand, or within one. -/
  | endInValue
  /-- No colon follows a name. -/
  | colonExpected
  /-- Neither a comma nor a closing bracket follows an item. -/
  | itemEndExpected
  /-- Neither a comma nor a closing brace follows a field. -/
  | fieldEndExpected
  /-- A word is misspelled. -/
  | wordExpected
  /-- No value starts here. -/
  | valueExpected
  /-- An escape does not exist. -/
  | escape
  /-- A number is misspelled. -/
  | number
  /-- A number is beyond the range of doubles. -/
  | numberRange
  /-- A control character stands in a quoted text. -/
  | controlCharacter
  /-- A field does not start with a name. -/
  | nameExpected
  /-- Half of a surrogate pair stands without the other half. -/
  | loneSurrogate
  /-- The first half of a surrogate pair is followed by something else than an escape. -/
  | pairExpected
  /-- A comma stands before a closing bracket or brace. -/
  | trailingComma
  /-- More text follows. -/
  | trailingText
  /-- Too many brackets are open. -/
  | tooDeep
deriving DecidableEq

/-- The report of the fault. -/
def SyntaxFault.message : SyntaxFault → String
  | .endInArray => "EOF while parsing a list"
  | .endInObject => "EOF while parsing an object"
  | .endInText => "EOF while parsing a string"
  | .endInValue => "EOF while parsing a value"
  | .colonExpected => "expected \x60:\x60"
  | .itemEndExpected => "expected \x60,\x60 or \x60]\x60"
  | .fieldEndExpected => "expected \x60,\x60 or \x60\x7d\x60"
  | .wordExpected => "expected ident"
  | .valueExpected => "expected value"
  | .escape => "invalid escape"
  | .number => "invalid number"
  | .numberRange => "number out of range"
  | .controlCharacter => "control character (\\u0000-\\u001F) found while parsing a string"
  | .nameExpected => "key must be a string"
  | .loneSurrogate => "lone leading surrogate in hex escape"
  | .pairExpected => "unexpected end of hex escape"
  | .trailingComma => "trailing comma"
  | .trailingText => "trailing characters"
  | .tooDeep => "recursion limit exceeded"

/-- A place where a text stops making sense. What is passed over without being read is looked at
less closely, so that the report can be another one. -/
structure Breach where
  /-- The fault for who reads the place. -/
  fault : SyntaxFault
  /-- The fault for who passes over it. -/
  skipped : SyntaxFault := fault
deriving DecidableEq

end BoundQuery
