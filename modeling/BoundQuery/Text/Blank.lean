import BoundQuery.Text.Ranges

/-!
# Blanks and trimming

A *blank* is a character with the Unicode property `White_Space`.

* `isBlank`: the property.
* `trim`, `trimChars`: a text without the blanks at its two ends.
-/

namespace BoundQuery.Text

/-- The code points with the property `White_Space`. -/
def whiteSpace : CodeRanges := [
  (0x9, 0xD), (0x20, 0x20), (0x85, 0x85), (0xA0, 0xA0), (0x1680, 0x1680), (0x2000, 0x200A),
  (0x2028, 0x2029), (0x202F, 0x202F), (0x205F, 0x205F), (0x3000, 0x3000)]

/-- Whether a character is a blank. -/
def isBlank (c : Char) : Bool := whiteSpace.mem c.toNat

/-- The characters without leading blanks. -/
def trimStartChars (cs : List Char) : List Char := cs.dropWhile isBlank

/-- The characters without trailing blanks. -/
def trimEndChars (cs : List Char) : List Char := (cs.reverse.dropWhile isBlank).reverse

/-- The characters without blanks at either end. -/
def trimChars (cs : List Char) : List Char := trimEndChars (trimStartChars cs)

/-- The text without blanks at either end. -/
def trim (s : String) : String := String.ofList (trimChars s.toList)

/-- The trimmed text, unless nothing is left of it. -/
def nonBlank (s : String) : Option String :=
  let t := trim s
  if t.isEmpty then none else some t

theorem toList_trim (s : String) : (trim s).toList = trimChars s.toList := by simp [trim]

end BoundQuery.Text
