import BoundQuery.Json.Basic
import BoundQuery.Decimal.Layout
import BoundQuery.Text.Visible

/-!
# Writing data values

* `Json.compact`: the value on one line without blanks.
* `Json.pretty`: one item a line, two more blanks a level; an empty array or object stays whole.
* `Json.text`: a text as itself and `null` as nothing, the rest in compact form.
-/

namespace BoundQuery.Json

open Text

/-- The written form of one character of a text. -/
def escapedChar (c : Char) : List Char :=
  if c = '"' then ['\\', '"']
  else if c = '\\' then ['\\', '\\']
  else if c = '\x08' then ['\\', 'b']
  else if c = '\x0c' then ['\\', 'f']
  else if c = '\n' then ['\\', 'n']
  else if c = '\r' then ['\\', 'r']
  else if c = '\t' then ['\\', 't']
  else if c.toNat < 16 then ['\\', 'u', '0', '0', '0'] ++ hexDigits c.toNat
  else if c.toNat < 32 then ['\\', 'u', '0', '0'] ++ hexDigits c.toNat
  else [c]

/-- A text in double quotes. -/
def quotedChars (s : String) : List Char := '"' :: s.toList.flatMap escapedChar ++ ['"']

/-- The written form of what is neither an array nor an object. -/
def scalarChars : Json → List Char
  | .bool true => ['t', 'r', 'u', 'e']
  | .bool false => ['f', 'a', 'l', 's', 'e']
  | .integer i => (toString i).toList
  | .real x => x.data.toList
  | .string s => quotedChars s
  | _ => ['n', 'u', 'l', 'l']

mutual

/-- The compact form as characters. -/
def compactChars : Json → List Char
  | .array [] => ['[', ']']
  | .array (v :: rest) => '[' :: compactChars v ++ compactItems rest
  | .object [] => ['\x7b', '\x7d']
  | .object ((name, v) :: rest) =>
    '\x7b' :: quotedChars name ++ ':' :: compactChars v ++ compactFields rest
  | .null => scalarChars .null
  | .bool b => scalarChars (.bool b)
  | .integer i => scalarChars (.integer i)
  | .real x => scalarChars (.real x)
  | .string s => scalarChars (.string s)

/-- The items after the first, and the closing bracket. -/
def compactItems : List Json → List Char
  | [] => [']']
  | v :: rest => ',' :: compactChars v ++ compactItems rest

/-- The fields after the first, and the closing brace. -/
def compactFields : List (String × Json) → List Char
  | [] => ['\x7d']
  | (name, v) :: rest =>
    ',' :: quotedChars name ++ ':' :: compactChars v ++ compactFields rest

end

/-- The value on one line. -/
def compact (v : Json) : String := String.ofList (compactChars v)

/-- The line break before an item at the given level. -/
def lineBreak (level : Nat) : List Char := '\n' :: List.replicate (2 * level) ' '

mutual

/-- The form with line breaks as characters, for a value at the given level. -/
def prettyChars (level : Nat) : Json → List Char
  | .array [] => ['[', ']']
  | .array (v :: rest) =>
    '[' :: lineBreak (level + 1) ++ prettyChars (level + 1) v ++ prettyItems level rest
  | .object [] => ['\x7b', '\x7d']
  | .object ((name, v) :: rest) =>
    '\x7b' :: lineBreak (level + 1) ++ quotedChars name ++ ':' :: ' ' ::
      prettyChars (level + 1) v ++ prettyFields level rest
  | .null => scalarChars .null
  | .bool b => scalarChars (.bool b)
  | .integer i => scalarChars (.integer i)
  | .real x => scalarChars (.real x)
  | .string s => scalarChars (.string s)

/-- The items after the first, and the closing bracket. -/
def prettyItems (level : Nat) : List Json → List Char
  | [] => lineBreak level ++ [']']
  | v :: rest =>
    ',' :: lineBreak (level + 1) ++ prettyChars (level + 1) v ++ prettyItems level rest

/-- The fields after the first, and the closing brace. -/
def prettyFields (level : Nat) : List (String × Json) → List Char
  | [] => lineBreak level ++ ['\x7d']
  | (name, v) :: rest =>
    ',' :: lineBreak (level + 1) ++ quotedChars name ++ ':' :: ' ' ::
      prettyChars (level + 1) v ++ prettyFields level rest

end

/-- The value with one item a line. -/
def pretty (v : Json) : String := String.ofList (prettyChars 0 v)

/-- The text form of a value: a text is itself and `null` is nothing. -/
def text : Json → String
  | .null => ""
  | .string s => s
  | v => v.compact

end BoundQuery.Json
