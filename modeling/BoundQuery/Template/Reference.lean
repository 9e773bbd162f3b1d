import BoundQuery.Json.Printer
import BoundQuery.Pipeline.Context

/-!
# References to earlier results

A text may refer to earlier results by path, as in `${path}`.
Arrays travel as arrays: a text that is exactly one reference to an array becomes that array, and a
list in brackets takes the items of the arrays it refers to. Everywhere else a reference is
replaced by text.

* `Piece`, `splitReferences`: a text as literal pieces and references.
* `substitute`: a text with every reference replaced.
* `interpolate`: a value with its references resolved.
-/

namespace BoundQuery

open Text

/-- A piece of a text with references. -/
inductive Piece where
  /-- Text that stays as it is. -/
  | literal (chars : List Char)
  /-- A reference by path. -/
  | reference (path : List Char)
deriving DecidableEq

/-- A reference to an array in a place where only text can stand. -/
structure ArrayInText where
  /-- The path. -/
  path : String
deriving DecidableEq

/-- The text of the fault. -/
def ArrayInText.message (f : ArrayInText) : String :=
  "array reference $\x7b" ++ f.path ++ "\x7d cannot be embedded in text"

/-! ### Pieces -/

/-- The text before and after the first opening of a reference. -/
def splitOpening? : List Char → Option (List Char × List Char)
  | [] => none
  | [_] => none
  | c :: d :: rest =>
    if c = '$' ∧ d = '\x7b' then some ([], rest)
    else (splitOpening? (d :: rest)).map fun (before, after) => (c :: before, after)

/-- The text before and after the first closing brace. -/
def splitClosing? : List Char → Option (List Char × List Char)
  | [] => none
  | c :: rest =>
    if c = '\x7d' then some ([], rest)
    else (splitClosing? rest).map fun (before, after) => (c :: before, after)

theorem length_of_splitOpening? {cs before after : List Char}
    (h : splitOpening? cs = some (before, after)) : after.length < cs.length := by
  fun_induction splitOpening? cs generalizing before after with
  | case1 => simp at h
  | case2 => simp at h
  | case3 c d rest hc =>
    simp at h; obtain ⟨_, rfl⟩ := h
    simp only [List.length_cons]; omega
  | case4 c d rest hc ih =>
    simp only [Option.map_eq_some_iff, Prod.mk.injEq] at h
    obtain ⟨⟨b, a⟩, hb, rfl, rfl⟩ := h
    have := ih hb
    simp at this ⊢; omega

theorem length_of_splitClosing? {cs before after : List Char}
    (h : splitClosing? cs = some (before, after)) : after.length < cs.length := by
  fun_induction splitClosing? cs generalizing before after with
  | case1 => simp at h
  | case2 rest =>
    simp at h; obtain ⟨_, rfl⟩ := h
    simp only [List.length_cons]; omega
  | case3 c rest hc ih =>
    simp only [Option.map_eq_some_iff, Prod.mk.injEq] at h
    obtain ⟨⟨b, a⟩, hb, rfl, rfl⟩ := h
    have := ih hb
    simp at this ⊢; omega

/-- A literal piece, unless it is empty. -/
def literalPiece (cs : List Char) : List Piece := if cs.isEmpty then [] else [.literal cs]

/-- The pieces of a text from left to right. A pair of braces with nothing between them is literal,
and so is an opening that is never closed. -/
def splitReferences (cs : List Char) : List Piece :=
  match _opened : splitOpening? cs with
  | none => literalPiece cs
  | some (before, after) =>
    match _closed : splitClosing? after with
    | none => literalPiece cs
    | some (path, rest) =>
      if path.isEmpty then .literal (before ++ ['$', '\x7b', '\x7d']) :: splitReferences rest
      else literalPiece before ++ .reference path :: splitReferences rest
termination_by cs.length
decreasing_by
  all_goals
    have := length_of_splitOpening? _opened
    have := length_of_splitClosing? _closed
    omega

/-- Whether a piece is a reference. -/
def Piece.isReference : Piece → Bool
  | .reference _ => true
  | .literal _ => false

/-- The path of a text that is exactly one reference. -/
def singleReference? (cs : List Char) : Option (List Char) :=
  match splitReferences cs with
  | [.reference path] => some path
  | _ => none

/-! ### Resolving -/

/-- The text that takes the place of a piece. What is missing or `null` leaves nothing. -/
def Piece.resolve (c : Context) : Piece → Except ArrayInText (List Char)
  | .literal cs => .ok cs
  | .reference path =>
    match c.lookup? path with
    | some (.array _) => .error ⟨String.ofList path⟩
    | some v => .ok v.text.toList
    | none => .ok []

/-- The texts of pieces one after the other. -/
def resolvePieces (c : Context) : List Piece → Except ArrayInText (List Char)
  | [] => .ok []
  | piece :: rest =>
    match piece.resolve c with
    | .error fault => .error fault
    | .ok cs => (resolvePieces c rest).map (cs ++ ·)

/-- A text with every reference replaced. -/
def substitute (c : Context) (cs : List Char) : Except ArrayInText (List Char) :=
  resolvePieces c (splitReferences cs)

/-- The items of the array that a text refers to, if it is exactly one reference to an array. -/
def referredItems? (c : Context) (cs : List Char) : Option (List Json) :=
  match (singleReference? cs).bind c.lookup? with
  | some (.array items) => some items
  | _ => none

/-- Whether one of the references in a text leads to an array. -/
def refersToArray (c : Context) (cs : List Char) : Bool :=
  (splitReferences cs).any fun piece =>
    match piece with
    | .reference path =>
      match c.lookup? path with
      | some (.array _) => true
      | _ => false
    | .literal _ => false

/-- The text between brackets. -/
def betweenBrackets? (cs : List Char) : Option (List Char) :=
  match cs with
  | '[' :: rest => if rest.getLast? = some ']' then some rest.dropLast else none
  | _ => none

/-- The items of an entry of a list in brackets: those of the array it refers to, or the entry as
one text. -/
def entryItems (c : Context) (entry : List Char) : Except ArrayInText (List Json) :=
  match referredItems? c entry with
  | some items => .ok items
  | none => (substitute c entry).map fun cs => [.string (String.ofList cs)]

/-- The items of the entries of a list in brackets. -/
def listItems (c : Context) : List (List Char) → Except ArrayInText (List Json)
  | [] => .ok []
  | entry :: rest =>
    match entryItems c (trimChars entry) with
    | .error fault => .error fault
    | .ok items => (listItems c rest).map (items ++ ·)

/-- A text with its references resolved. -/
def interpolateText (c : Context) (cs : List Char) : Except ArrayInText Json :=
  let trimmed := trimChars cs
  match referredItems? c trimmed with
  | some items => .ok (.array items)
  | none =>
    match betweenBrackets? trimmed with
    | some inner =>
      if refersToArray c inner then (listItems c (inner.splitOn ',')).map .array
      else (substitute c cs).map fun cs => .string (String.ofList cs)
    | none => (substitute c cs).map fun cs => .string (String.ofList cs)

/-- A value with its references resolved. Only texts have any. -/
def interpolate (c : Context) : Json → Except ArrayInText Json
  | .string s =>
    if (splitReferences s.toList).any Piece.isReference then interpolateText c s.toList
    else .ok (.string s)
  | v => .ok v

end BoundQuery
