import BoundQuery.Json.Literal

/-!
# Reading data texts

* `Source.ofChars`: the tree of a text; `Source.ofText`: with whether anything follows the value.
* `Json.parse?`: the data value that a whole text writes.
-/

namespace BoundQuery

namespace Source

/-- How many brackets may be open around and including a value. -/
def depthLimit : Nat := 127

/-- Blanks between the parts of a data text. -/
def isSpace (c : Char) : Bool := c = ' ' || c = '\n' || c = '\t' || c = '\r'

/-- The rest of a text after blanks. -/
def skipSpace (cs : List Char) : List Char := cs.dropWhile isSpace

/-- An array or object inside `depth` more brackets than may be open; its text still counts. -/
def withinDepth (depth : Nat) (s : Source) : Source :=
  if depth = 0 then
    match s.skipFault? with
    | none => .valueless .tooDeep
    | some fault => .broken ⟨.tooDeep, fault⟩
  else s

/-- A quoted text after its opening quote, as a value. -/
def textValue (cs : List Char) : Source × List Char :=
  match afterText cs with
  | .error skipped => (.broken (textBreach cs skipped), [])
  | .ok rest =>
    match quotedText cs with
    | .ok s => (.string s, rest)
    | .error fault => (.valueless fault, rest)

/-- The items and the rest of a text where an array breaks off. -/
def itemBreach (fault : SyntaxFault) : List Source × Option Breach × List Char :=
  ([], some ⟨fault, fault⟩, [])

/-- The fields and the rest of a text where an object breaks off. -/
def fieldBreach (breach : Breach) :
    List (Except SyntaxFault String × Source) × Option Breach × List Char :=
  ([], some breach, [])

mutual

/-- Reads one value; the rest of the text follows. -/
def readValue : Nat → Nat → List Char → Source × List Char
  | 0, _, _ => (.broken ⟨.endInValue, .endInValue⟩, [])
  | fuel + 1, depth, cs =>
    match skipSpace cs with
    | [] => (.broken ⟨.endInValue, .endInValue⟩, [])
    | 'n' :: rest => wordValue .null ['u', 'l', 'l'] rest
    | 't' :: rest => wordValue (.bool true) ['r', 'u', 'e'] rest
    | 'f' :: rest => wordValue (.bool false) ['a', 'l', 's', 'e'] rest
    | '"' :: rest => textValue rest
    | '[' :: rest =>
      let (items, breach, rest) := readArray fuel (depth - 1) true rest
      (withinDepth depth (.array items breach), rest)
    | '\x7b' :: rest =>
      let (fields, breach, rest) := readObject fuel (depth - 1) true rest
      (withinDepth depth (.object fields breach), rest)
    | '-' :: rest => unsignedNumber true rest
    | c :: rest =>
      if c.isDigit then unsignedNumber false (c :: rest)
      else (.broken ⟨.valueExpected, .valueExpected⟩, [])

/-- Reads items up to the closing bracket; `first` tells that no comma is due. -/
def readArray : Nat → Nat → Bool → List Char → List Source × Option Breach × List Char
  | 0, _, _, _ => itemBreach .endInArray
  | fuel + 1, depth, first, cs =>
    match skipSpace cs, first with
    | [], _ => itemBreach .endInArray
    | ']' :: rest, _ => ([], none, rest)
    | cs, true =>
      let (v, rest) := readValue fuel depth cs
      let (items, breach, rest) := readArray fuel depth false rest
      (v :: items, breach, rest)
    | ',' :: rest, false =>
      match skipSpace rest with
      | [] => itemBreach .endInValue
      | ']' :: _ => ([], some ⟨.trailingComma, .valueExpected⟩, [])
      | cs =>
        let (v, rest) := readValue fuel depth cs
        let (items, breach, rest) := readArray fuel depth false rest
        (v :: items, breach, rest)
    | _, false => itemBreach .itemEndExpected

/-- Reads fields up to the closing brace; `first` tells that no comma is due. -/
def readObject : Nat → Nat → Bool → List Char →
    List (Except SyntaxFault String × Source) × Option Breach × List Char
  | 0, _, _, _ => fieldBreach ⟨.endInObject, .endInObject⟩
  | fuel + 1, depth, first, cs =>
    match skipSpace cs, first with
    | [], _ => fieldBreach ⟨.endInObject, .endInObject⟩
    | '\x7d' :: rest, _ => ([], none, rest)
    | '"' :: rest, true => readField fuel depth rest
    | _, true => fieldBreach ⟨.nameExpected, .nameExpected⟩
    | ',' :: rest, false =>
      match skipSpace rest with
      | [] => fieldBreach ⟨.endInValue, .endInObject⟩
      | '"' :: rest => readField fuel depth rest
      | '\x7d' :: _ => fieldBreach ⟨.trailingComma, .nameExpected⟩
      | _ => fieldBreach ⟨.nameExpected, .nameExpected⟩
    | _, false => fieldBreach ⟨.fieldEndExpected, .fieldEndExpected⟩

/-- Reads a name after its opening quote, a colon, a value and the fields after it. -/
def readField : Nat → Nat → List Char →
    List (Except SyntaxFault String × Source) × Option Breach × List Char
  | 0, _, _ => fieldBreach ⟨.endInObject, .endInObject⟩
  | fuel + 1, depth, cs =>
    match afterText cs with
    | .error skipped => fieldBreach (textBreach cs skipped)
    | .ok rest =>
      match skipSpace rest with
      | ':' :: rest =>
        let (v, rest) := readValue fuel depth rest
        let (fields, breach, rest) := readObject fuel depth false rest
        ((quotedText cs, v) :: fields, breach, rest)
      | [] => ([(quotedText cs, .broken ⟨.endInObject, .endInObject⟩)], none, [])
      | _ => ([(quotedText cs, .broken ⟨.colonExpected, .colonExpected⟩)], none, [])

end

/-- The tree of the value at the start of a text, and the rest of the text. Each step of the
reader that does not end the text takes a character, so the length bounds the steps. -/
def ofChars (cs : List Char) : Source × List Char := readValue (3 * cs.length + 3) depthLimit cs

/-- The tree of the value that a text holds, and whether only blanks follow it. -/
def ofText (s : String) : Source × Bool :=
  let (tree, rest) := ofChars s.toList
  (tree, rest.all isSpace)

end Source

/-- The data value that a whole text writes. -/
def Json.parse? (s : String) : Option Json :=
  let (tree, complete) := Source.ofText s
  if complete then tree.read.toOption else none

end BoundQuery
