import BoundQuery.Json.Reader
import BoundQuery.Reading.Fault

/-!
# Reading models from data texts

The building blocks of the readers of models. A reader walks the tree of a text from left to
right and stops at the first fault.

* `Source.text`, `Source.flag`, `Source.int64`, `Source.uint64`, `Source.items`, `Source.value`:
  the plain kinds of values.
* `readRecord`: a record, as an object or as an array in the order of its fields.
* `readTagged`: a record whose field `mode` says which kind it is.
* `readChoice`: one of a list of words, some with a value.
-/

namespace BoundQuery

/-- Where a model is read from. -/
inductive Origin where
  /-- From a text: what a word may look like is then a matter of syntax. -/
  | text
  /-- From a data value that has been read before. -/
  | value
  /-- From a settings document, which knows no `null` and does not count the items of an array. -/
  | settings
deriving DecidableEq

namespace Source

/-- What a tree is, for a report, or why it has no value. -/
def found : Source → Except SyntaxFault Found
  | .null => .ok .null
  | .bool b => .ok (.bool b)
  | .integer i => .ok (.integer i)
  | .real x => .ok (.real x)
  | .string s => .ok (.string s)
  | .array _ _ => .ok .sequence
  | .object _ _ => .ok .map
  | .valueless fault => .error fault
  | .broken breach => .error breach.fault

/-- The fault of a tree that is not what was expected. -/
def unexpected (s : Source) (expected : String) : ReadFault :=
  match s.found with
  | .ok found => .invalidType found expected
  | .error fault => .malformed fault

/-- A text. -/
def text : Source → Except ReadFault String
  | .string s => .ok s
  | s => .error (s.unexpected "a string")

/-- A text or `null`. -/
def optionalText : Source → Except ReadFault (Option String)
  | .null => .ok none
  | s => s.text.map some

/-- A truth value. -/
def flag : Source → Except ReadFault Bool
  | .bool b => .ok b
  | s => .error (s.unexpected "a boolean")

/-- An integer of 64 signed bits. -/
def int64 : Source → Except ReadFault Int64
  | .integer i =>
    match int64OfInt? i with
    | some n => .ok n
    | none => .error (.invalidValue (.integer i) "i64")
  | s => .error (s.unexpected "i64")

/-- An integer of 64 bits without a sign; `type` is the name it has in a report. -/
def uint64 (type : String) : Source → Except ReadFault UInt64
  | .integer i =>
    match i with
    | .ofNat n =>
      match uint64OfNat? n with
      | some n => .ok n
      | none => .error (.invalidValue (.integer i) type)
    | .negSucc _ => .error (.invalidValue (.integer i) type)
  | s => .error (s.unexpected type)

/-- Any data value. -/
def value (s : Source) : Except ReadFault Json := s.read.mapError .malformed

/-- A value that has been read up to a breach, or to its end if there is none. -/
def upTo {α : Type} (breach : Option Breach) (a : α) : Except ReadFault α :=
  match breach with
  | none => .ok a
  | some breach => .error (.malformed breach.fault)

/-- A list, read item by item. -/
def items {α : Type} (read : Source → Except ReadFault α) : Source → Except ReadFault (List α)
  | .array items breach =>
    match items.mapM read with
    | .error fault => .error fault
    | .ok values => upTo breach values
  | s => .error (s.unexpected "a sequence")

/-- A word that one of the lists of a query model should hold. -/
def word {α : Type} (read : String → Except WordFault α) (s : Source) : Except ReadFault α :=
  match s.text with
  | .error fault => .error fault
  | .ok w => (read w).mapError .unknownWord

/-- Nothing: `null`, and in a settings document an empty array or table. -/
def nothing (origin : Origin) (s : Source) : Except ReadFault Unit :=
  match origin, s with
  | .settings, .array [] _ => .ok ()
  | .settings, .object [] _ => .ok ()
  | .settings, s => .error (s.unexpected "unit")
  | _, .null => .ok ()
  | _, s => .error (s.unexpected "unit")

/-- A tree whose array has at most `count` items, if more of them do not count. -/
def counted (origin : Origin) (count : Nat) : Source → Source
  | .array items breach => .array (if origin = .settings then items.take count else items) breach
  | s => s

end Source

/-! ### Records -/

/-- Puts a value into a slot that must still be empty. -/
def fill {α σ : Type} (slot : Option α) (name : String) (read : Except ReadFault α)
    (put : α → σ) : Except ReadFault σ :=
  if slot.isSome then .error (.duplicateField name) else read.map put

/-- Passes over a field that no slot is for. -/
def skip {σ : Type} (s : Source) (slots : σ) : Except ReadFault σ :=
  match s.skipFault? with
  | none => .ok slots
  | some fault => .error (.malformed fault)

/-- A field as a text gives it: a name, which may be a fault, and a value. -/
abbrev SourceField := Except SyntaxFault String × Source

/-- Visits fields in order. -/
def visitFields {σ : Type} (visit : σ → String → Source → Except ReadFault σ) (slots : σ) :
    List SourceField → Except ReadFault σ
  | [] => .ok slots
  | (.error fault, _) :: _ => .error (.malformed fault)
  | (.ok name, s) :: rest =>
    match visit slots name s with
    | .error fault => .error fault
    | .ok slots => visitFields visit slots rest

/-- The value of a slot that must be filled. -/
def required {α : Type} (slot : Option α) (name : String) : Except ReadFault α :=
  match slot with
  | some a => .ok a
  | none => .error (.missingField name)

/-- How a record is read: its fields fill slots, and the slots make the value. -/
structure RecordReader (α : Type) where
  /-- The slots. -/
  Slots : Type
  /-- The slots before any field. -/
  empty : Slots
  /-- The names of the fields in the order in which an array gives them. -/
  names : List String
  /-- Puts one field into its slot. -/
  visit : Slots → String → Source → Except ReadFault Slots
  /-- Makes the value, once all fields have been visited. -/
  finish : Slots → Except ReadFault α

/-- A number of elements, in words. -/
def elements (n : Nat) : String := toString n ++ if n = 1 then " element" else " elements"

namespace RecordReader

variable {α : Type} (r : RecordReader α)

/-- Reads the fields of an object. -/
def ofFields (fields : List SourceField) (breach : Option Breach) : Except ReadFault α :=
  match visitFields r.visit r.empty fields with
  | .error fault => .error fault
  | .ok slots =>
    match Source.upTo breach slots with
    | .error fault => .error fault
    | .ok slots => r.finish slots

/-- The fault of an array that has no item for a field. -/
def tooShort (title : String) : ReadFault → ReadFault
  | .missingField name =>
    .wrongLength (r.names.idxOf name) (title ++ " with " ++ elements r.names.length)
  | fault => fault

/-- Reads the items of an array as the fields in order; `title` names the record in a report. -/
def ofItems (title : String) (items : List Source) : Except ReadFault α :=
  match visitFields r.visit r.empty ((r.names.map .ok).zip items) with
  | .error fault => .error fault
  | .ok slots => (r.finish slots).mapError (r.tooShort title)

/-- The fault of an array after the item for the last field: all that may follow is its closing
bracket. -/
def afterLast : Breach → SyntaxFault
  | ⟨.endInArray, _⟩ => .endInArray
  | ⟨.trailingComma, _⟩ => .trailingComma
  | _ => .trailingText

/-- Reads the items of an array of a text. -/
def ofArray (title : String) (items : List Source) (breach : Option Breach) :
    Except ReadFault α :=
  if items.length < r.names.length then
    match visitFields r.visit r.empty ((r.names.map .ok).zip items) with
    | .error fault => .error fault
    | .ok _ =>
      match breach with
      | some breach => .error (.malformed breach.fault)
      | none => r.ofItems title items
  else
    match r.ofItems title items with
    | .error fault => .error fault
    | .ok a =>
      if r.names.length < items.length then .error (.malformed .trailingText)
      else
        match breach with
        | some breach => .error (.malformed (afterLast breach))
        | none => .ok a

end RecordReader

/-- Reads a record, as an object or as an array; `type` is its name in a report. -/
def readRecord {α : Type} (type : String) (r : RecordReader α) : Source → Except ReadFault α
  | .object fields breach => r.ofFields fields breach
  | .array items breach => r.ofArray ("struct " ++ type) items breach
  | s => .error (s.unexpected ("struct " ++ type))

/-! ### Tagged records -/

/-- The value under a word of a list. -/
def variant? {α : Type} (known : List (String × α)) (word : String) : Except ReadFault α :=
  match known.lookup word with
  | some a => .ok a
  | none => .error (.unknownVariant word (known.map Prod.fst))

/-- The word that a tag is, and the kind that it names. -/
def readTag {κ : Type} (known : List (String × κ)) : Source → Except ReadFault (String × κ)
  | .string word => (variant? known word).map fun kind => (word, kind)
  | s => .error (s.unexpected "variant identifier")

/-- The name of the field that says which kind a tagged record is. -/
def tagName : String := "mode"

/-- Takes the tag out of the fields of a tagged record. All values must be readable, since the
fields wait until the tag is known. -/
def splitTag {κ : Type} (known : List (String × κ)) (tag : Option κ) :
    List SourceField → Except ReadFault (Option κ × List SourceField)
  | [] => .ok (tag, [])
  | (.error fault, _) :: _ => .error (.malformed fault)
  | (.ok name, s) :: rest =>
    if name = tagName then
      if tag.isSome then .error (.duplicateField tagName)
      else
        match readTag known s with
        | .error fault => .error fault
        | .ok (_, kind) => splitTag known (some kind) rest
    else
      match s.read with
      | .error fault => .error (.malformed fault)
      | .ok _ => (splitTag known tag rest).map fun (tag, fields) => (tag, (.ok name, s) :: fields)

/-- The letters of a word with underscores as a name in which every part has a capital. -/
def capitalized (up : Bool) : List Char → List Char
  | [] => []
  | c :: rest =>
    if c = '_' then capitalized true rest
    else (if up then c.toUpper else c) :: capitalized false rest

/-- The name of a kind of a tagged record in a report. -/
def variantTitle (type word : String) : String :=
  "struct variant " ++ type ++ "::" ++ String.ofList (capitalized true word.toList)

/-- Reads the items after the tag of an array that is a tagged record. -/
def readTaggedItems {α : Type} (title : String) (r : RecordReader α) (items : List Source) :
    Except ReadFault α :=
  match r.ofItems title items with
  | .error fault => .error fault
  | .ok a =>
    if r.names.length < items.length then
      .error (.wrongLength items.length (elements r.names.length ++ " in sequence"))
    else .ok a

/-- Reads a tagged record, as an object or as an array that starts with the tag; `type` is its
name in a report. -/
def readTagged {κ α : Type} (type : String) (known : List (String × κ))
    (reader : κ → RecordReader α) : Source → Except ReadFault α
  | .object fields breach =>
    match splitTag known none fields with
    | .error fault => .error fault
    | .ok (tag, fields) =>
      match breach, tag with
      | some breach, _ => .error (.malformed breach.fault)
      | none, none => .error (.missingField tagName)
      | none, some kind => (reader kind).ofFields fields none
  | .array [] breach => do
    Source.upTo breach ()
    .error (.missingField tagName)
  | .array (tag :: items) breach => do
    let (word, kind) ← readTag known tag
    let _ ← items.mapM Source.value
    Source.upTo breach ()
    readTaggedItems (variantTitle type word) (reader kind) items
  | s => .error (s.unexpected ("internally tagged enum " ++ type))

/-! ### Choices -/

/-- What a word of a choice comes with. -/
inductive Choice (α : Type) where
  /-- Nothing. -/
  | plain (value : α)
  /-- A number. -/
  | counted (value : UInt64 → α)

/-- The choice that a word alone makes. -/
def Choice.alone {α : Type} : Choice α → Except ReadFault α
  | .plain a => .ok a
  | .counted _ => .error (.invalidType .unitVariant "newtype variant")

/-- The choice that a word with a value makes. -/
def Choice.withValue {α : Type} (origin : Origin) (s : Source) : Choice α → Except ReadFault α
  | .plain a => (s.nothing origin).map fun _ => a
  | .counted f => (s.uint64 "usize").map f

/-- The fault of a choice in braces after its value: all that may follow is the closing brace. -/
def afterChoice : Option Breach → SyntaxFault
  | some ⟨.endInObject, _⟩ => .endInObject
  | _ => .valueExpected

/-- Reads the fields of a choice in braces from a text. -/
def readChoiceText {α : Type} (known : List (String × Choice α)) (fields : List SourceField)
    (breach : Option Breach) : Except ReadFault α :=
  match fields with
  | [] =>
    match breach with
    | some ⟨.endInObject, _⟩ => .error (.malformed .endInValue)
    | _ => .error (.malformed .valueExpected)
  | (.error fault, _) :: _ => .error (.malformed fault)
  | (.ok word, s) :: rest => do
    let a ← (← variant? known word).withValue .text s
    if rest.isEmpty && breach.isNone then .ok a
    else .error (.malformed (if rest.isEmpty then afterChoice breach else .valueExpected))

/-- Reads one of a list of words: the word itself, or an object whose only field is the word. In a
text anything else is no choice at all. -/
def readChoice {α : Type} (origin : Origin) (known : List (String × Choice α)) :
    Source → Except ReadFault α
  | .string word => do (← variant? known word).alone
  | .object fields breach =>
    match origin, fields with
    | .text, fields => readChoiceText known fields breach
    | _, [(.ok word, s)] => do (← variant? known word).withValue origin s
    | _, _ => .error (.invalidValue .map "map with a single key")
  | s =>
    match origin, s.unexpected "string or map" with
    | .text, .malformed fault => .error (.malformed fault)
    | .text, _ => .error (.malformed .valueExpected)
    | _, fault => .error fault

/-- Reads a model from the whole of a text. -/
def readText {α : Type} (read : Source → Except ReadFault α) (s : String) : Except ReadFault α :=
  match read (Source.ofText s).1 with
  | .error fault => .error fault
  | .ok a => if (Source.ofText s).2 then .ok a else .error (.malformed .trailingText)

/-- Reads a model from a data value. -/
def readValue {α : Type} (read : Source → Except ReadFault α) (v : Json) : Except ReadFault α :=
  read (Source.ofJson v)

end BoundQuery
