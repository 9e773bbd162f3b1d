import BoundQuery.Calendar.Reader
import BoundQuery.Json.Source

/-!
# Dates and times of a settings document

A document may hold a date, a time of day, or both, perhaps with a zone. No setting takes one, but
a parameter of a step may be given one; it then is an object with a single field, which holds the
date and time as text.

* `moment?`: a date, a time, or both.
-/

namespace BoundQuery.Toml

open Timestamp Calendar

/-- The field that holds a date and time. -/
def momentField : String := "$__toml_private_datetime"

/-- Takes a date, as text. -/
def date? (cs : List Char) : Option (List Char × List Char) := do
  let (year, cs) ← fixed? 4 cs
  let cs ← expect? '-' cs
  let (month, cs) ← fixed? 2 cs
  let cs ← expect? '-' cs
  let (day, cs) ← fixed? 2 cs
  if 1 ≤ day ∧ day ≤ daysInMonth year month then
    some (padded 4 year ++ '-' :: padded 2 month ++ '-' :: padded 2 day, cs)
  else none

/-- The text of a fraction of a second from its digits: nine of them at most, and no zeros at the
end. -/
def fractionText (ds : List Char) : List Char :=
  match ((ds.take 9).reverse.dropWhile (· = '0')).reverse with
  | [] => []
  | kept => '.' :: kept

/-- Takes a fraction of a second, if there is one, as text. -/
def secondFraction (cs : List Char) : List Char × List Char :=
  match cs with
  | '.' :: rest =>
    let ds := rest.takeWhile Char.isDigit
    if ds.isEmpty then ([], cs) else (fractionText ds, rest.dropWhile Char.isDigit)
  | cs => ([], cs)

/-- Takes a time of day, as text. -/
def time? (cs : List Char) : Option (List Char × List Char) := do
  let (hour, cs) ← fixed? 2 cs
  let cs ← expect? ':' cs
  let (minute, cs) ← fixed? 2 cs
  let cs ← expect? ':' cs
  let (second, cs) ← fixed? 2 cs
  if hour < 24 ∧ minute < 60 ∧ second ≤ 60 then
    let (fraction, cs) := secondFraction cs
    some (padded 2 hour ++ ':' :: padded 2 minute ++ ':' :: padded 2 second ++ fraction, cs)
  else none

/-- Takes a zone, if there is one, as text. -/
def zone? (cs : List Char) : Option (List Char × List Char) :=
  match cs with
  | [] => some ([], [])
  | c :: rest =>
    if c = 'Z' ∨ c = 'z' then some (['Z'], rest)
    else if c = '+' ∨ c = '-' then do
      let (hours, rest) ← fixed? 2 rest
      let rest ← expect? ':' rest
      let (minutes, rest) ← fixed? 2 rest
      if hours < 24 ∧ minutes < 60 then
        let s := if c = '-' ∧ hours + minutes ≠ 0 then '-' else '+'
        some (s :: padded 2 hours ++ ':' :: padded 2 minutes, rest)
      else none
    else some ([], cs)

/-- Takes a `T` or a blank and a time, perhaps with a zone, if there is one. -/
def timeAfterDate? (cs : List Char) : Option (List Char × List Char) :=
  match cs with
  | [] => some ([], [])
  | c :: rest =>
    if c = 'T' ∨ c = 't' ∨ c = ' ' then
      match time? rest with
      | some (time, rest) =>
        (zone? rest).map fun (zone, rest) => ('T' :: time ++ zone, rest)
      | none => some ([], cs)
    else some ([], cs)

/-- Takes a date, a time, or both. -/
def moment? (cs : List Char) : Option (Source × List Char) := do
  let (text, cs) ←
    match date? cs with
    | some (date, rest) => (timeAfterDate? rest).map fun (time, rest) => (date ++ time, rest)
    | none => time? cs
  return (.object [(.ok momentField, .string (String.ofList text))] none, cs)

end BoundQuery.Toml
