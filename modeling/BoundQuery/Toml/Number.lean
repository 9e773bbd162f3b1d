import BoundQuery.Decimal.Reader
import BoundQuery.Json.Source
import BoundQuery.Text.Letter

/-!
# Numbers of a settings document

* `number?`: an integer or a double, the digits perhaps with single underscores between them.
-/

namespace BoundQuery.Toml

open Text

/-- Takes the digits that follow a first one. An underscore must have a digit after it. -/
def moreDigits? (isDigit : Char → Bool) : List Char → Option (List Char × List Char)
  | [] => some ([], [])
  | c :: rest =>
    if isDigit c then (moreDigits? isDigit rest).map fun (ds, rest) => (c :: ds, rest)
    else if c = '_' then if rest.head?.any isDigit then moreDigits? isDigit rest else none
    else some ([], c :: rest)

/-- Takes at least one digit. -/
def digitRun? (isDigit : Char → Bool) (cs : List Char) : Option (List Char × List Char) :=
  if cs.head?.any isDigit then moreDigits? isDigit cs else none

/-- Takes the digits of a number in decimal notation, where a leading zero stands alone. -/
def wholeDigits? (cs : List Char) : Option (List Char × List Char) :=
  match cs with
  | '0' :: rest => some (['0'], rest)
  | cs => digitRun? Char.isDigit cs

/-- Takes a sign, if there is one. -/
def sign : List Char → List Char × List Char
  | '-' :: rest => (['-'], rest)
  | '+' :: rest => (['+'], rest)
  | cs => ([], cs)

/-- Takes the part of a number after a point, if there is one. -/
def fractionPart? : List Char → Option (List Char × List Char)
  | '.' :: rest => (digitRun? Char.isDigit rest).map fun (ds, rest) => ('.' :: ds, rest)
  | cs => some ([], cs)

/-- Takes the exponent of a number, if there is one. -/
def exponentPart? : List Char → Option (List Char × List Char)
  | [] => some ([], [])
  | c :: rest =>
    if c = 'e' ∨ c = 'E' then
      let (s, rest) := sign rest
      (digitRun? Char.isDigit rest).map fun (ds, rest) => ('e' :: s ++ ds, rest)
    else some ([], c :: rest)

/-- The integer of a number, if it fits 64 signed bits. -/
def fitted? (i : Int) : Option Source :=
  (int64OfInt? i).map fun i => .integer i.toInt

/-- Takes a number in decimal notation: a double if it has a fraction or an exponent. What is
beyond the greatest double is no number, but below the least one there is minus infinity. -/
def decimal? (cs : List Char) : Option (Source × List Char) := do
  let (s, cs) := sign cs
  let (whole, cs) ← wholeDigits? cs
  let (fraction, cs) ← fractionPart? cs
  let (exponent, cs) ← exponentPart? cs
  if fraction.isEmpty && exponent.isEmpty then
    let i ← integer? (s ++ whole)
    return (← fitted? i, cs)
  else
    let x ← Double.ofText? (s ++ whole ++ fraction ++ exponent)
    if x = Double.infinity false then none else some (.real x, cs)

/-- Takes a number with a base: the digits after the two characters that tell it. -/
def based? (base : Nat) (cs : List Char) : Option (Source × List Char) := do
  let value? (c : Char) : Option Nat := (hexValue? c).filter (· < base)
  let (ds, cs) ← digitRun? (fun c => (value? c).isSome) cs
  let n := ds.foldl (fun n d => n * base + (value? d).getD 0) 0
  return (← fitted? n, cs)

/-- Takes one of the words for numbers that have no digits. -/
def special? (cs : List Char) : Option (Source × List Char) :=
  let (s, cs) := sign cs
  match cs with
  | 'i' :: 'n' :: 'f' :: rest => some (.real (.infinity (s = ['-'])), rest)
  | 'n' :: 'a' :: 'n' :: rest => some (.real .nan, rest)
  | _ => none

/-- Takes a number. -/
def number? (cs : List Char) : Option (Source × List Char) :=
  match cs with
  | '0' :: 'x' :: rest => based? 16 rest
  | '0' :: 'o' :: rest => based? 8 rest
  | '0' :: 'b' :: rest => based? 2 rest
  | cs => (special? cs).or (decimal? cs)

end BoundQuery.Toml
