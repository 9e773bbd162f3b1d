import BoundQuery.Text.CaseTable

/-!
# Full case mappings

* `upper`: the upper-case form of a text; one character may become several.
* `lower`: the lower-case form of a text; a capital sigma at the end of a word becomes the final
  form of the letter.
* `lowerAscii`: the lower-case form of ASCII letters only.
-/

namespace BoundQuery.Text

/-- The image of `n` under the first run that holds it. -/
def CaseRun.image? (n : Nat) : List CaseRun → Option Nat
  | [] => none
  | run :: rest =>
    if n < run.first then none
    else if n ≤ run.last ∧ (n - run.first) % run.step = 0 then
      some (Int.toNat (n + run.shift))
    else CaseRun.image? n rest

/-- The mapping of one character beyond ASCII by a table of runs and one of expansions. -/
def mapCase (runs : List CaseRun) (expansions : List (Nat × List Nat)) (c : Char) : List Char :=
  match expansions.lookup c.toNat with
  | some image => image.map Char.ofNat
  | none =>
    match CaseRun.image? c.toNat runs with
    | some image => [Char.ofNat image]
    | none => [c]

/-- The upper-case form of one character. -/
def upperChar (c : Char) : List Char :=
  if c.toNat < 128 then [c.toUpper] else mapCase upperRuns upperExpansions c

/-- The lower-case form of one character, wherever it stands. -/
def lowerChar (c : Char) : List Char :=
  if c.toNat < 128 then [c.toLower] else mapCase lowerRuns lowerExpansions c

/-- The upper-case form of a text. -/
def upper (s : String) : String := String.ofList (s.toList.flatMap upperChar)

/-- Whether the first character that is not ignored by case rules is a cased one. -/
def startsCased : List Char → Bool
  | [] => false
  | c :: rest => if caseIgnorable.mem c.toNat then startsCased rest else cased.mem c.toNat

/-- The lower-case form of the characters of a text; `before` holds those already passed, the last
one first. A capital sigma with a cased letter before it and none after it is final. -/
def lowerChars (before : List Char) : List Char → List Char
  | [] => []
  | c :: rest =>
    let image :=
      if c = 'Σ' then
        if startsCased before && !startsCased rest then ['ς'] else ['σ']
      else lowerChar c
    image ++ lowerChars (c :: before) rest

/-- The lower-case form of a text. -/
def lower (s : String) : String := String.ofList (lowerChars [] s.toList)

/-- The lower-case form of the ASCII letters of a text. -/
def lowerAscii (s : String) : String := s.map Char.toLower

end BoundQuery.Text
