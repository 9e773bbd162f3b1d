import BoundQuery.Json.Source
import BoundQuery.Decimal.Reader

/-!
# Words, texts and numbers of data texts

Each reader takes a literal from the start of a text and gives its value and the rest.

* `afterText`: the rest after a quoted text that need only be well formed.
* `textChars`: the characters that a quoted text stands for.
* `unsignedNumber`: a number after its sign.
-/

namespace BoundQuery.Source

open Text

/-! ### Words -/

/-- Takes the letters of a word. -/
def expectWord : List Char → List Char → Except SyntaxFault (List Char)
  | [], cs => .ok cs
  | _ :: _, [] => .error .endInValue
  | c :: word, d :: rest => if c = d then expectWord word rest else .error .wordExpected

/-- The value of a word, if the letters of the word follow. -/
def wordValue (value : Source) (word cs : List Char) : Source × List Char :=
  match expectWord word cs with
  | .ok rest => (value, rest)
  | .error fault => (.broken ⟨fault, fault⟩, [])

/-! ### Texts -/

/-- The number written by four hexadecimal digits. -/
def hex4? (a b c d : Char) : Option Nat := do
  let a ← hexValue? a
  let b ← hexValue? b
  let c ← hexValue? c
  let d ← hexValue? d
  return ((a * 16 + b) * 16 + c) * 16 + d

/-- The character that a letter after a backslash stands for. -/
def escaped? : Char → Option Char
  | '"' => some '"'
  | '\\' => some '\\'
  | '/' => some '/'
  | 'b' => some '\x08'
  | 'f' => some '\x0c'
  | 'n' => some '\n'
  | 'r' => some '\r'
  | 't' => some '\t'
  | _ => none

/-- The fault of an escape with fewer than four digits before the end of the text. Bytes count. -/
def shortEscape (rest : List Char) : SyntaxFault :=
  if 4 ≤ (String.ofList rest).utf8ByteSize then .escape else .endInText

/-- What follows the closing quote of a text, after its opening quote. Escapes need only be well
formed. -/
def afterText : List Char → Except SyntaxFault (List Char)
  | [] => .error .endInText
  | '"' :: rest => .ok rest
  | ['\\'] => .error .endInText
  | '\\' :: 'u' :: a :: b :: c :: d :: rest =>
    if (hex4? a b c d).isSome then afterText rest else .error .escape
  | '\\' :: 'u' :: rest => .error (shortEscape rest)
  | '\\' :: e :: rest => if (escaped? e).isSome then afterText rest else .error .escape
  | c :: rest => if c.toNat < 32 then .error .controlCharacter else afterText rest

/-- Whether a code unit is the first half of a surrogate pair. -/
def isHighUnit (u : Nat) : Bool := 0xD800 ≤ u && u < 0xDC00

/-- Whether a code unit is the second half of a surrogate pair. -/
def isLowUnit (u : Nat) : Bool := 0xDC00 ≤ u && u < 0xE000

/-- The character of a surrogate pair. -/
def pairChar (high low : Nat) : Char :=
  Char.ofNat (0x10000 + (high - 0xD800) * 1024 + (low - 0xDC00))

/-- The characters of a text up to its closing quote. If the first half of a surrogate pair has
been read, `high` holds it and the other half must follow. -/
def textChars : Option Nat → List Char → Except SyntaxFault (List Char)
  | _, [] => .error .endInText
  | _, ['\\'] => .error .endInText
  | some high, '\\' :: 'u' :: a :: b :: c :: d :: rest =>
    match hex4? a b c d with
    | none => .error .escape
    | some u =>
      if isLowUnit u then (textChars none rest).map (pairChar high u :: ·)
      else .error .loneSurrogate
  | none, '\\' :: 'u' :: a :: b :: c :: d :: rest =>
    match hex4? a b c d with
    | none => .error .escape
    | some u =>
      if isLowUnit u then .error .loneSurrogate
      else if isHighUnit u then textChars (some u) rest
      else (textChars none rest).map (Char.ofNat u :: ·)
  | _, '\\' :: 'u' :: rest => .error (shortEscape rest)
  | some _, _ => .error .pairExpected
  | none, '"' :: _ => .ok []
  | none, '\\' :: e :: rest =>
    match escaped? e with
    | none => .error .escape
    | some c => (textChars none rest).map (c :: ·)
  | none, c :: rest =>
    if c.toNat < 32 then .error .controlCharacter else (textChars none rest).map (c :: ·)

/-- The text that the characters after an opening quote stand for. -/
def quotedText (cs : List Char) : Except SyntaxFault String :=
  (textChars none cs).map String.ofList

/-- The breach of a text without an end: reading it may meet another fault before that. -/
def textBreach (cs : List Char) (skipped : SyntaxFault) : Breach :=
  match quotedText cs with
  | .error fault => ⟨fault, skipped⟩
  | .ok _ => ⟨skipped, skipped⟩

/-! ### Numbers -/

/-- Appends digits to a significand as long as it fits 64 bits: the significand, and how many
digits went into it. -/
def accumulate (significand : Nat) : List Char → Nat × Nat
  | [] => (significand, 0)
  | c :: rest =>
    let next := significand * 10 + (c.toNat - 48)
    if next < twoTo 64 then
      let (s, taken) := accumulate next rest
      (s, taken + 1)
    else (significand, 0)

/-- Takes one or more digits. Where the text ends before the first one, who passes over the number
does not notice that. -/
def digitsOrBreach (cs : List Char) : Except Breach (List Char × List Char) :=
  match cs.takeWhile Char.isDigit with
  | [] => .error (if cs.isEmpty then ⟨.endInValue, .number⟩ else ⟨.number, .number⟩)
  | ds => .ok (ds, cs.dropWhile Char.isDigit)

/-- The whole part of a number: digits, of which the first is zero only if it stands alone. -/
def wholePart (cs : List Char) : Except Breach (List Char × List Char) :=
  match digitsOrBreach cs with
  | .ok ('0' :: _ :: _, _) => .error ⟨.number, .number⟩
  | r => r

/-- The fraction of a number: nothing, or a point and digits. -/
def fractionPart : List Char → Except Breach (Option (List Char) × List Char)
  | '.' :: rest => (digitsOrBreach rest).map fun (ds, rest) => (some ds, rest)
  | cs => .ok (none, cs)

/-- The exponent of a number: nothing, or a letter `e`, an optional sign and digits. -/
def exponentPart : List Char → Except Breach (Option Int × List Char)
  | [] => .ok (none, [])
  | c :: rest =>
    if c = 'e' ∨ c = 'E' then
      let (negative, body) := splitSign rest
      (digitsOrBreach body).map fun (ds, rest) =>
        let n : Int := natOfDigits ds
        (some (if negative then -n else n), rest)
    else .ok (none, c :: rest)

/-- The value of a number literal from its parts. A literal of digits alone is an integer if it
fits 64 bits, unless it is a negative zero. -/
def numberOf (negative : Bool) (whole : List Char) (fraction : Option (List Char))
    (exponent : Option Int) : Source :=
  let (significand, taken) := accumulate 0 whole
  let dropped : Int := whole.length - taken
  match fraction, exponent, dropped with
  | none, none, 0 =>
    if !negative then .integer significand
    else if significand ≠ 0 ∧ significand ≤ twoTo 63 then .integer (-(significand : Int))
    else .real (Double.nearest true significand 1)
  | _, _, _ =>
    let (significand, taken) := accumulate significand (fraction.getD [])
    match Double.scaled? negative significand (dropped - taken + exponent.getD 0) with
    | some x => .real x
    | none => .valueless .numberRange

/-- A number literal after its sign, and the rest of the text. -/
def unsignedNumber (negative : Bool) (cs : List Char) : Source × List Char :=
  let parts : Except Breach (Source × List Char) := do
    let (whole, cs) ← wholePart cs
    let (fraction, cs) ← fractionPart cs
    let (exponent, cs) ← exponentPart cs
    return (numberOf negative whole fraction exponent, cs)
  match parts with
  | .ok r => r
  | .error breach => (.broken breach, [])

end BoundQuery.Source
