import BoundQuery.Template.Reference
import Mathlib.Data.List.Infix

/-!
# Pieces of a text with references

A text is cut into references and the literal pieces between them.

* `splitOpening?_append`, `splitClosing?_append` : each of the two searches stops at the first place
  there is;
* `Piece.source`, `Piece.Proper` : the text of a piece, and that there is something in it;
* `Scans` : the pieces that are found from left to right, said by where the first opening and the
  first closing brace behind it are;
* `scans_iff` : **the pieces of a text are those, and no others**;
* `splitReferences_eq_reference_iff` : a text is one reference exactly if it is written as one;
* `splitReferences_leftmost` : all of this together, with what follows from it: no piece is empty
  and nothing of a text is lost.
-/

namespace BoundQuery

/-! ### The two searches -/

/-- Whether a reference is opened somewhere in a text. -/
def HasOpening (cs : List Char) : Prop := ['$', '\x7b'] <:+: cs

theorem not_hasOpening_nil : ¬ HasOpening [] := by simp [HasOpening]

theorem hasOpening_cons_iff {c : Char} {cs : List Char} :
    HasOpening (c :: cs) ↔ (c = '$' ∧ cs.head? = some '\x7b') ∨ HasOpening cs := by
  rw [HasOpening, List.infix_cons_iff, HasOpening]
  refine or_congr_left ?_
  cases cs with
  | nil => simp
  | cons d cs => simp [List.cons_prefix_cons, eq_comm]

/-- A character in front of an opening does not open anything with the dollar sign of that one. -/
theorem not_opening_append {c : Char} {before : List Char}
    (h : ¬ (c = '$' ∧ before.head? = some '\x7b')) (after : List Char) :
    ¬ (c = '$' ∧ (before ++ '$' :: after).head? = some '\x7b') := by
  rintro ⟨hc, hhead⟩
  cases before with
  | nil => cases hhead
  | cons d before => exact h ⟨hc, hhead⟩

/-- Where no opening is in front of one, that one is found. -/
theorem splitOpening?_append {before : List Char} (h : ¬ HasOpening before) (after : List Char) :
    splitOpening? (before ++ '$' :: '\x7b' :: after) = some (before, after) := by
  induction before with
  | nil => simp [splitOpening?]
  | cons c before ih =>
    rw [hasOpening_cons_iff, not_or] at h
    have hrest := ih h.2
    have hopening := not_opening_append h.1 ('\x7b' :: after)
    rw [List.cons_append]
    generalize before ++ '$' :: '\x7b' :: after = cs at hrest hopening
    cases cs with
    | nil => cases hrest
    | cons d cs =>
      rw [splitOpening?, if_neg (by simpa using hopening), hrest]
      rfl

/-- The text in front of the opening that is found has none. -/
theorem splitOpening?_eq_some {cs before after : List Char}
    (h : splitOpening? cs = some (before, after)) :
    cs = before ++ '$' :: '\x7b' :: after ∧ ¬ HasOpening before := by
  fun_induction splitOpening? cs generalizing before after with
  | case1 => cases h
  | case2 => cases h
  | case3 c d rest hopening =>
    obtain ⟨rfl, rfl⟩ := hopening
    cases h
    exact ⟨rfl, not_hasOpening_nil⟩
  | case4 c d rest hopening ih =>
    obtain ⟨⟨front, behind⟩, hsplit, heq⟩ := Option.map_eq_some_iff.1 h
    obtain ⟨rfl, rfl⟩ := Prod.mk.inj heq
    obtain ⟨hcs, hfront⟩ := ih hsplit
    refine ⟨by rw [hcs, List.cons_append], fun hall => ?_⟩
    rcases hasOpening_cons_iff.1 hall with ⟨hc, hhead⟩ | hrest
    · have hd := congrArg List.head? hcs
      rw [List.head?_append, hhead] at hd
      exact hopening ⟨hc, Option.some.inj hd⟩
    · exact hfront hrest

theorem splitOpening?_eq_none_iff {cs : List Char} :
    splitOpening? cs = none ↔ ¬ HasOpening cs := by
  constructor
  · intro h
    fun_induction splitOpening? cs with
    | case1 => exact not_hasOpening_nil
    | case2 c => simp [hasOpening_cons_iff, not_hasOpening_nil]
    | case3 => cases h
    | case4 c d rest hopening ih =>
      rw [hasOpening_cons_iff, not_or]
      exact ⟨by simpa using hopening, ih (Option.map_eq_none_iff.1 h)⟩
  · intro h
    rw [Option.eq_none_iff_forall_ne_some]
    rintro ⟨before, after⟩ hsome
    obtain ⟨rfl, -⟩ := splitOpening?_eq_some hsome
    exact h ⟨before, after, by simp⟩

/-- Where no closing brace is in front of one, that one is found. -/
theorem splitClosing?_append {path : List Char} (h : '\x7d' ∉ path) (rest : List Char) :
    splitClosing? (path ++ '\x7d' :: rest) = some (path, rest) := by
  induction path with
  | nil => rfl
  | cons c path ih =>
    rw [List.mem_cons, not_or] at h
    rw [List.cons_append, splitClosing?, if_neg (Ne.symm h.1), ih h.2]
    rfl

/-- The text in front of the closing brace that is found has none. -/
theorem splitClosing?_eq_some {cs path rest : List Char}
    (h : splitClosing? cs = some (path, rest)) : cs = path ++ '\x7d' :: rest ∧ '\x7d' ∉ path := by
  fun_induction splitClosing? cs generalizing path rest with
  | case1 => cases h
  | case2 rest =>
    cases h
    exact ⟨rfl, List.not_mem_nil⟩
  | case3 c rest hc ih =>
    obtain ⟨⟨front, behind⟩, hsplit, heq⟩ := Option.map_eq_some_iff.1 h
    obtain ⟨rfl, rfl⟩ := Prod.mk.inj heq
    obtain ⟨rfl, hinner⟩ := ih hsplit
    exact ⟨rfl, List.not_mem_cons_of_ne_of_not_mem (Ne.symm hc) hinner⟩

theorem splitClosing?_eq_none_iff {cs : List Char} :
    splitClosing? cs = none ↔ '\x7d' ∉ cs := by
  constructor
  · intro h hmem
    obtain ⟨path, rest, rfl, hpath⟩ := List.eq_append_cons_of_mem hmem
    rw [splitClosing?_append hpath] at h
    cases h
  · intro h
    rw [Option.eq_none_iff_forall_ne_some]
    rintro ⟨path, rest⟩ hsome
    obtain ⟨rfl, -⟩ := splitClosing?_eq_some hsome
    exact h (by simp)

/-! ### The scan -/

/-- The text of a piece. -/
def Piece.source : Piece → List Char
  | .literal cs => cs
  | .reference path => '$' :: '\x7b' :: (path ++ ['\x7d'])

/-- Whether there is something in a piece, and nothing in a path that would close it earlier. -/
def Piece.Proper : Piece → Prop
  | .literal cs => cs ≠ []
  | .reference path => path ≠ [] ∧ '\x7d' ∉ path

/-- The pieces that are found in a text from left to right. -/
inductive Scans : List Char → List Piece → Prop
  /-- Where nothing is opened, all of the text is literal. -/
  | plain {cs : List Char} (h : ¬ HasOpening cs) : Scans cs (literalPiece cs)
  /-- An opening that is never closed ends the scan: all that is left is literal. -/
  | unclosed {before after : List Char} (hbefore : ¬ HasOpening before) (hafter : '\x7d' ∉ after) :
    Scans (before ++ '$' :: '\x7b' :: after) [.literal (before ++ '$' :: '\x7b' :: after)]
  /-- Braces with nothing between them are literal, together with the text before them. -/
  | empty {before rest : List Char} {pieces : List Piece} (hbefore : ¬ HasOpening before)
    (h : Scans rest pieces) :
    Scans (before ++ '$' :: '\x7b' :: '\x7d' :: rest)
      (.literal (before ++ ['$', '\x7b', '\x7d']) :: pieces)
  /-- Any other text between an opening and the first closing brace behind it is a path. -/
  | reference {before path rest : List Char} {pieces : List Piece}
    (hbefore : ¬ HasOpening before) (hpath : path ≠ []) (hinner : '\x7d' ∉ path)
    (h : Scans rest pieces) :
    Scans (before ++ '$' :: '\x7b' :: (path ++ '\x7d' :: rest))
      (literalPiece before ++ .reference path :: pieces)

theorem mem_literalPiece {piece : Piece} {cs : List Char} :
    piece ∈ literalPiece cs ↔ piece = .literal cs ∧ cs ≠ [] := by
  unfold literalPiece
  split <;> simp_all

theorem literalPiece_of_ne_nil {cs : List Char} (h : cs ≠ []) :
    literalPiece cs = [.literal cs] := by
  rw [literalPiece, if_neg (by simpa using h)]

/-- The scan comes to an end, with the pieces of the text. -/
theorem scans_splitReferences (cs : List Char) : Scans cs (splitReferences cs) := by
  fun_induction splitReferences cs with
  | case1 cs hopened => exact .plain (splitOpening?_eq_none_iff.1 hopened)
  | case2 cs before after hopened hclosed =>
    obtain ⟨rfl, hbefore⟩ := splitOpening?_eq_some hopened
    rw [literalPiece_of_ne_nil (by simp)]
    exact .unclosed hbefore (splitClosing?_eq_none_iff.1 hclosed)
  | case3 cs before after hopened path rest hclosed hempty ih =>
    obtain ⟨rfl, hbefore⟩ := splitOpening?_eq_some hopened
    obtain ⟨rfl, -⟩ := splitClosing?_eq_some hclosed
    obtain rfl := List.isEmpty_iff.1 hempty
    exact .empty hbefore ih
  | case4 cs before after hopened path rest hclosed hempty ih =>
    obtain ⟨rfl, hbefore⟩ := splitOpening?_eq_some hopened
    obtain ⟨rfl, hinner⟩ := splitClosing?_eq_some hclosed
    exact .reference hbefore (fun hpath => hempty (List.isEmpty_iff.2 hpath)) hinner ih

/-- One turn of the scan. -/
theorem splitReferences_eq (cs : List Char) :
    splitReferences cs =
      match splitOpening? cs with
      | none => literalPiece cs
      | some (before, after) =>
        match splitClosing? after with
        | none => literalPiece cs
        | some (path, rest) =>
          if path.isEmpty then .literal (before ++ ['$', '\x7b', '\x7d']) :: splitReferences rest
          else literalPiece before ++ .reference path :: splitReferences rest := by
  fun_cases splitReferences cs <;> simp_all

/-- The scan finds nothing else. -/
theorem Scans.eq {cs : List Char} {pieces : List Piece} (h : Scans cs pieces) :
    pieces = splitReferences cs := by
  induction h with
  | plain h => rw [splitReferences_eq, splitOpening?_eq_none_iff.2 h]
  | unclosed hbefore hafter =>
    rw [splitReferences_eq, splitOpening?_append hbefore]
    dsimp only
    rw [splitClosing?_eq_none_iff.2 hafter, literalPiece_of_ne_nil (by simp)]
  | @empty before rest pieces hbefore _ ih =>
    have hclosed : splitClosing? ('\x7d' :: rest) = some ([], rest) := rfl
    rw [splitReferences_eq, splitOpening?_append hbefore]
    dsimp only
    rw [hclosed, ih]
    rfl
  | reference hbefore hpath hinner _ ih =>
    rw [splitReferences_eq, splitOpening?_append hbefore]
    dsimp only
    rw [splitClosing?_append hinner]
    dsimp only
    rw [if_neg (by simpa using hpath), ih]

/-- **The pieces of a text are exactly those that are found from left to right.** -/
theorem scans_iff {cs : List Char} {pieces : List Piece} :
    Scans cs pieces ↔ pieces = splitReferences cs := by
  constructor
  · exact Scans.eq
  · rintro rfl
    exact scans_splitReferences cs

/-! ### The pieces -/

theorem flatMap_source_literalPiece (cs : List Char) :
    (literalPiece cs).flatMap Piece.source = cs := by
  cases cs with
  | nil => rfl
  | cons => exact List.flatMap_singleton ..

/-- Nothing of a text is lost. -/
theorem Scans.source_eq {cs : List Char} {pieces : List Piece} (h : Scans cs pieces) :
    pieces.flatMap Piece.source = cs := by
  induction h with
  | plain => exact flatMap_source_literalPiece _
  | unclosed => exact List.flatMap_singleton ..
  | empty _ _ ih => simp [Piece.source, ih]
  | reference _ _ _ _ ih =>
    rw [List.flatMap_append, List.flatMap_cons, flatMap_source_literalPiece, ih]
    simp [Piece.source]

/-- Every piece that is found has something in it. -/
theorem Scans.proper {cs : List Char} {pieces : List Piece} (h : Scans cs pieces) :
    ∀ piece ∈ pieces, piece.Proper := by
  have hliteral : ∀ l, ∀ piece ∈ literalPiece l, piece.Proper := by
    intro l piece hpiece
    obtain ⟨rfl, hl⟩ := mem_literalPiece.1 hpiece
    exact hl
  induction h with
  | plain h => exact hliteral _
  | unclosed => simp [Piece.Proper]
  | empty _ _ ih => simpa [Piece.Proper] using ih
  | reference _ hpath hinner _ ih =>
    rw [List.forall_mem_append, List.forall_mem_cons]
    exact ⟨hliteral _, ⟨hpath, hinner⟩, ih⟩

theorem length_literalPiece_le (cs : List Char) : (literalPiece cs).length ≤ cs.length := by
  cases cs <;> simp [literalPiece]

/-- Every turn takes at least as many characters from the text as it adds pieces. -/
theorem Scans.length_le {cs : List Char} {pieces : List Piece} (h : Scans cs pieces) :
    pieces.length ≤ cs.length := by
  induction h with
  | plain => exact length_literalPiece_le _
  | unclosed =>
    simp only [List.length_append, List.length_cons, List.length_nil]
    omega
  | empty _ _ ih =>
    simp only [List.length_append, List.length_cons]
    omega
  | @reference before _ _ _ _ _ _ _ ih =>
    have hbefore := length_literalPiece_le before
    simp only [List.length_append, List.length_cons]
    omega

/-- A text is one reference exactly if it is written as one. -/
theorem splitReferences_eq_reference_iff {cs path : List Char} :
    splitReferences cs = [.reference path] ↔
      cs = '$' :: '\x7b' :: (path ++ ['\x7d']) ∧ path ≠ [] ∧ '\x7d' ∉ path := by
  constructor
  · intro h
    have hsource := (scans_splitReferences cs).source_eq
    have hproper := (scans_splitReferences cs).proper
    rw [h] at hsource hproper
    rw [List.flatMap_singleton] at hsource
    exact ⟨hsource.symm, hproper _ (List.mem_singleton_self _)⟩
  · rintro ⟨rfl, hpath, hinner⟩
    have hscans := Scans.reference not_hasOpening_nil hpath hinner (.plain not_hasOpening_nil)
    exact hscans.eq.symm

theorem singleReference?_eq_some_iff {cs path : List Char} :
    singleReference? cs = some path ↔ splitReferences cs = [.reference path] := by
  unfold singleReference?
  split
  next p h => simp [h]
  next h => simp_all

/-- **A text is cut from left to right, and nothing of it is lost.**  The pieces of a text are
exactly those that the scan finds, and at most one for each character; written one after the other
they are the text; none is empty, and no path holds a closing brace.  A text is a single reference
exactly if it is a path in braces behind a dollar sign. -/
theorem splitReferences_leftmost (cs : List Char) :
    (∀ pieces, Scans cs pieces ↔ pieces = splitReferences cs) ∧
      (splitReferences cs).length ≤ cs.length ∧
      (splitReferences cs).flatMap Piece.source = cs ∧
      (∀ piece ∈ splitReferences cs, piece.Proper) ∧
      ∀ path, (singleReference? cs = some path ↔ splitReferences cs = [.reference path]) ∧
        (splitReferences cs = [.reference path] ↔
          cs = '$' :: '\x7b' :: (path ++ ['\x7d']) ∧ path ≠ [] ∧ '\x7d' ∉ path) :=
  ⟨fun _ => scans_iff, (scans_splitReferences cs).length_le,
    (scans_splitReferences cs).source_eq, (scans_splitReferences cs).proper,
    fun _ => ⟨singleReference?_eq_some_iff, splitReferences_eq_reference_iff⟩⟩

/-- Braces with nothing between them, an opening inside a path, a closing brace too many, and an
opening that is never closed. -/
theorem splitReferences_leftmost_nested :
    splitReferences "a$\x7b\x7d$\x7b$\x7bx\x7dy\x7d$\x7bz".toList =
        [.literal "a$\x7b\x7d".toList, .reference "$\x7bx".toList,
          .literal "y\x7d$\x7bz".toList] ∧
      (Piece.reference "$\x7bx".toList).Proper ∧
      singleReference? "$\x7b$\x7bx\x7d".toList = some "$\x7bx".toList := by
  have hpieces : splitReferences "a$\x7b\x7d$\x7b$\x7bx\x7dy\x7d$\x7bz".toList =
      [.literal "a$\x7b\x7d".toList, .reference "$\x7bx".toList,
        .literal "y\x7d$\x7bz".toList] := by decide +kernel
  have hproper := (splitReferences_leftmost
    "a$\x7b\x7d$\x7b$\x7bx\x7dy\x7d$\x7bz".toList).2.2.2.1 (.reference "$\x7bx".toList)
    (by rw [hpieces]; simp)
  have hsingle := (splitReferences_leftmost "$\x7b$\x7bx\x7d".toList).2.2.2.2 "$\x7bx".toList
  exact ⟨hpieces, hproper, hsingle.1.2 (hsingle.2.2 ⟨by decide, hproper⟩)⟩

end BoundQuery
