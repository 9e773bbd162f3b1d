import BoundQuery.Calendar.Timestamp
import BoundQuery.Decimal.Power
import BoundQuery.Text.Blank
import BoundQuery.Text.Letter

/-!
# Timestamps written as text

A text is a timestamp in one of four forms, tried in this order:

* `Timestamp.zoned?`: `2024-01-02T03:04:05.6Z`, with a zone; every field has its full width, and
  the result is in universal time.
* `Timestamp.spaced?` and `Timestamp.joined?`: `2024-1-2 3:04:05.6`, with blanks or a `T` between
  date and time and no zone.
* `Timestamp.dateOnly?`: `2024-1-2`, at midnight.

`Timestamp.ofText?` tries them on the trimmed text.
-/

namespace BoundQuery.Timestamp

open Text

/-! ### Fields -/

/-- Takes the given character. -/
def expect? (c : Char) : List Char → Option (List Char)
  | d :: rest => if c = d then some rest else none
  | [] => none

/-- Takes exactly `width` digits. -/
def fixed? (width : Nat) (cs : List Char) : Option (Nat × List Char) :=
  let ds := cs.take width
  if ds.length = width ∧ ds.all Char.isDigit then some (natOfDigits ds, cs.drop width) else none

/-- Takes one up to `most` digits, as many as there are. -/
def upTo? (most : Nat) (cs : List Char) : Option (Nat × List Char) :=
  let ds := (cs.take most).takeWhile Char.isDigit
  if ds.isEmpty then none else some (natOfDigits ds, cs.drop ds.length)

/-- Takes all digits that follow, at least one. -/
def allDigits? (cs : List Char) : Option (Nat × List Char) :=
  let ds := cs.takeWhile Char.isDigit
  if ds.isEmpty then none else some (natOfDigits ds, cs.dropWhile Char.isDigit)

/-- Takes blanks and then one or two digits. -/
def loose? (cs : List Char) : Option (Nat × List Char) := upTo? 2 (cs.dropWhile isBlank)

/-- Takes blanks and then a year: up to four digits, or any number of them after a sign. -/
def year? (cs : List Char) : Option (Int × List Char) :=
  match cs.dropWhile isBlank with
  | '-' :: rest => (allDigits? rest).map fun (n, r) => (-(n : Int), r)
  | '+' :: rest => (allDigits? rest).map fun (n, r) => ((n : Int), r)
  | cs => (upTo? 4 cs).map fun (n, r) => ((n : Int), r)

/-- Takes an optional fraction of a second, as nanoseconds; digits past the ninth are dropped, and
a point without a digit is a fault. -/
def fraction? : List Char → Option (Nat × List Char)
  | '.' :: rest =>
    let ds := rest.takeWhile Char.isDigit
    if ds.isEmpty then none
    else
      let kept := ds.take 9
      some (natOfDigits kept * tenTo (9 - kept.length), rest.dropWhile Char.isDigit)
  | cs => some (0, cs)

/-! ### The four forms -/

/-- Takes the offset of a zone from universal time, in minutes: `Z`, or a sign, two digits of
hours up to 23, a colon and two digits of minutes up to 59. -/
def offset? : List Char → Option (Int × List Char)
  | [] => none
  | c :: rest =>
    if c = 'Z' ∨ c = 'z' then some (0, rest)
    else if c = '+' ∨ c = '-' ∨ c = '−' then do
      let (hours, rest) ← fixed? 2 rest
      let rest ← expect? ':' rest
      let (minutes, rest) ← fixed? 2 rest
      if hours < 24 ∧ minutes < 60 then
        let total : Int := hours * 60 + minutes
        some (if c = '+' then total else -total, rest)
      else none
    else none

/-- A timestamp with a zone, in universal time. -/
def zoned? (cs : List Char) : Option Timestamp := do
  let (year, cs) ← fixed? 4 cs
  let cs ← expect? '-' cs
  let (month, cs) ← fixed? 2 cs
  let cs ← expect? '-' cs
  let (day, cs) ← fixed? 2 cs
  let cs ←
    match cs with
    | 'T' :: rest => some rest
    | 't' :: rest => some rest
    | ' ' :: rest => some rest
    | _ => none
  let (hour, cs) ← fixed? 2 cs
  let cs ← expect? ':' cs
  let (minute, cs) ← fixed? 2 cs
  let cs ← expect? ':' cs
  let (second, cs) ← fixed? 2 cs
  let (nano, cs) ← fraction? cs
  let (minutes, cs) ← offset? cs
  if cs.isEmpty then
    let t ← ofParts? year month day hour minute second nano
    t.addMinutes? (-minutes)
  else none

/-- Takes a date whose fields need not be padded. -/
def looseDate? (cs : List Char) : Option ((Int × Nat × Nat) × List Char) := do
  let (year, cs) ← year? cs
  let cs ← expect? '-' cs
  let (month, cs) ← loose? cs
  let cs ← expect? '-' cs
  let (day, cs) ← loose? cs
  return ((year, month, day), cs)

/-- A time of day whose fields need not be padded, at the end of a text, on the given date. -/
def looseTime? (date : Int × Nat × Nat) (cs : List Char) : Option Timestamp := do
  let (hour, cs) ← loose? cs
  let cs ← expect? ':' cs
  let (minute, cs) ← loose? cs
  let cs ← expect? ':' cs
  let (second, cs) ← loose? cs
  let (nano, cs) ← fraction? cs
  if cs.isEmpty then ofParts? date.1 date.2.1 date.2.2 hour minute second nano else none

/-- A date and a time without a zone, with nothing or blanks between them. -/
def spaced? (cs : List Char) : Option Timestamp := do
  let (date, cs) ← looseDate? cs
  looseTime? date cs

/-- A date and a time without a zone, with a `T` between them. -/
def joined? (cs : List Char) : Option Timestamp := do
  let (date, cs) ← looseDate? cs
  let cs ← expect? 'T' cs
  looseTime? date cs

/-- A date alone, at midnight. -/
def dateOnly? (cs : List Char) : Option Timestamp := do
  let ((year, month, day), cs) ← looseDate? cs
  if cs.isEmpty then ofParts? year month day 0 0 0 0 else none

/-- The timestamp that a text writes, blanks around it aside. -/
def ofText? (s : String) : Option Timestamp :=
  let cs := trimChars s.toList
  (zoned? cs).or ((spaced? cs).or ((joined? cs).or (dateOnly? cs)))

end BoundQuery.Timestamp
