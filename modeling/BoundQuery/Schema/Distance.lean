/-!
# Edit distance

The least number of single characters to insert, delete or replace that turns one text into
another.

* `editDistance`: the distance, computed row by row.
* `distanceRow`: the distances from one suffix of the first text to all suffixes of the second.
-/

namespace BoundQuery

/-- The distances from the empty text to the suffixes of a text: their lengths. -/
def emptyRow : List Char → List Nat
  | [] => [0]
  | _ :: rest => (rest.length + 1) :: emptyRow rest

/-- The distances from `c :: s` to the suffixes of a text, from those of `s`. -/
def extendRow (c : Char) : List Char → List Nat → List Nat
  | d :: rest, here :: right :: below =>
    let row := extendRow c rest (right :: below)
    let replace := right + if c = d then 0 else 1
    min (min (here + 1) (row.headD 0 + 1)) replace :: row
  | _, row => row.map (· + 1)

/-- The distances from a text to the suffixes of another, the whole text first. -/
def distanceRow (s t : List Char) : List Nat :=
  s.foldr (fun c row => extendRow c t row) (emptyRow t)

/-- The edit distance of two texts. -/
def editDistance (s t : String) : Nat := (distanceRow s.toList t.toList).headD 0

end BoundQuery
