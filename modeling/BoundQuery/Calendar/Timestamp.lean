import BoundQuery.Calendar.Date

/-!
# Timestamps

A `Timestamp` is a date and a time of day without a zone, to the nanosecond. The second 60 is a
leap second and is kept as one.

* `Timestamp.ofMillis?`: the moment so many milliseconds after the start of 1970.
* `Timestamp.addMinutes?`: the moment some minutes later.
* `Timestamp.render`: the written form, `2024-01-02 03:04:05.500`.
-/

namespace BoundQuery

/-- A date and a time of day. -/
structure Timestamp where
  /-- The year, with a year zero. -/
  year : Int
  /-- The month, from 1. -/
  month : Nat
  /-- The day of the month, from 1. -/
  day : Nat
  /-- The hour, up to 23. -/
  hour : Nat
  /-- The minute, up to 59. -/
  minute : Nat
  /-- The second, up to 59, or 60 in a leap second. -/
  second : Nat
  /-- The nanosecond within the second. -/
  nano : Nat
deriving DecidableEq

namespace Timestamp

open Calendar

/-- The timestamp with the given parts, if there is one. -/
def ofParts? (year : Int) (month day hour minute second nano : Nat) : Option Timestamp :=
  if isDate year month day ∧ hour < 24 ∧ minute < 60 ∧ second ≤ 60 ∧ nano < 1000000000 then
    some ⟨year, month, day, hour, minute, second, nano⟩
  else none

/-- The milliseconds from the start of 1970 to the first moment of the least year. -/
def firstMillis : Int := -8334601228800000

/-- The milliseconds from the start of 1970 to the last moment of the greatest year. -/
def lastMillis : Int := 8210266876799999

/-- The moment `millis` milliseconds after the start of 1970, if it is in range. -/
def ofMillis? (millis : Int) : Option Timestamp :=
  if firstMillis ≤ millis ∧ millis ≤ lastMillis then
    let (year, month, day) := dateOfDay (millis / 86400000)
    let rest := (millis % 86400000).toNat
    some
      { year, month, day
        hour := rest / 3600000
        minute := rest / 60000 % 60
        second := rest / 1000 % 60
        nano := rest % 1000 * 1000000 }
  else none

/-- The moment `minutes` later; seconds stay as they are. -/
def addMinutes? (t : Timestamp) (minutes : Int) : Option Timestamp :=
  let total := dayNumber t.year t.month t.day * 1440 + t.hour * 60 + t.minute + minutes
  let (year, month, day) := dateOfDay (total / 1440)
  let rest := (total % 1440).toNat
  ofParts? year month day (rest / 60) (rest % 60) t.second t.nano

/-- A number with at least `width` digits. -/
def padded (width n : Nat) : List Char :=
  let ds := Nat.toDigits 10 n
  List.replicate (width - ds.length) '0' ++ ds

/-- The year with at least four digits; beyond those four it bears a sign. -/
def yearChars (year : Int) : List Char :=
  (if year < 0 then ['-'] else if 9999 < year then ['+'] else []) ++ padded 4 year.natAbs

/-- The fraction of the second: nothing, or a point and the fewest of three, six or nine digits
that are exact. -/
def fractionChars (nano : Nat) : List Char :=
  if nano = 0 then []
  else if nano % 1000000 = 0 then '.' :: padded 3 (nano / 1000000)
  else if nano % 1000 = 0 then '.' :: padded 6 (nano / 1000)
  else '.' :: padded 9 nano

/-- The written form as characters. -/
def chars (t : Timestamp) : List Char :=
  yearChars t.year ++ '-' :: padded 2 t.month ++ '-' :: padded 2 t.day ++ ' ' ::
    padded 2 t.hour ++ ':' :: padded 2 t.minute ++ ':' :: padded 2 t.second ++
    fractionChars t.nano

/-- The written form. -/
def render (t : Timestamp) : String := String.ofList t.chars

end Timestamp

end BoundQuery
