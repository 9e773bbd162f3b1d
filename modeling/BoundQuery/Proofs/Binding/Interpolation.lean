import BoundQuery.Proofs.Binding.Symbol

/-!
# Values with references

A text of a parameter may refer to earlier results.  What becomes of it is said about its symbols,
which are read once: what is put in is not read again.

* `Symbol.insertion` : the text that takes the place of a symbol;
* `wholeItems?` : the items of symbols that are exactly one reference to an array, and `Embedded` :
  references to arrays among symbols;
* `Written`, `Listed` : symbols as one text, and the entries of a list one after the other;
* `Interpolates` : a text becomes an array, a list in brackets or a text;
* `interpolate_resolves` : **this is what interpolation makes of every text without a comma in a
  path**, and it fails exactly if an array would have to become part of a text (`Unfit`).
-/

namespace BoundQuery

open Text

/-! ### What becomes of a text -/

namespace Symbol

/-- The items of the array that a symbol refers to. -/
def items? (c : Context) : Symbol → Option (List Json)
  | .char _ => none
  | .reference path =>
    match c.lookup? path with
    | some (.array items) => some items
    | _ => none

/-- The text that takes the place of a symbol: a text that it refers to, or the written form of
another value. What is missing or `null` leaves nothing. -/
def insertion (c : Context) : Symbol → List Char
  | .char x => [x]
  | .reference path =>
    match c.lookup? path with
    | none => []
    | some .null => []
    | some (.string s) => s.toList
    | some v => v.compact.toList

end Symbol

/-- The items of symbols that are exactly one reference to an array. -/
def wholeItems? (c : Context) : List Symbol → Option (List Json)
  | [sym] => sym.items? c
  | _ => none

/-- Whether there is a reference to an array by this path among the symbols. -/
def Embedded (c : Context) (syms : List Symbol) (path : List Char) : Prop :=
  .reference path ∈ syms ∧ ∃ items, c.lookup? path = some (.array items)

/-- Symbols as one text: every symbol is replaced, unless one refers to an array. -/
inductive Written (c : Context) (syms : List Symbol) : Except ArrayInText (List Char) → Prop
  /-- No symbol refers to an array. -/
  | text (h : ∀ path, ¬ Embedded c syms path) : Written c syms (.ok (syms.flatMap (·.insertion c)))
  /-- A symbol does. -/
  | fault {path : List Char} (h : Embedded c syms path) :
    Written c syms (.error ⟨String.ofList path⟩)

/-- The values of an entry of a list: the items of the array that it is, or the entry as a text. -/
def entryValues (c : Context) (entry : List Symbol) : List Json :=
  match wholeItems? c entry with
  | some items => items
  | none => [.string (String.ofList (entry.flatMap (·.insertion c)))]

/-- The values of entries one after the other, unless one that is no array refers to one. -/
inductive Listed (c : Context) (entries : List (List Symbol)) :
    Except ArrayInText (List Json) → Prop
  /-- Every entry is an array or refers to none. -/
  | items (h : ∀ entry ∈ entries, wholeItems? c entry = none → ∀ path, ¬ Embedded c entry path) :
    Listed c entries (.ok (entries.flatMap (entryValues c)))
  /-- An entry refers to an array in a text. -/
  | fault {entry : List Symbol} {path : List Char} (hentry : entry ∈ entries)
    (hwhole : wholeItems? c entry = none) (h : Embedded c entry path) :
    Listed c entries (.error ⟨String.ofList path⟩)

/-- Symbols in brackets. -/
def bracketed (inner : List Symbol) : List Symbol := .char '[' :: (inner ++ [.char ']'])

/-- The symbols between commas, without the blanks around them. -/
def entries (inner : List Symbol) : List (List Symbol) :=
  (inner.splitOn (.char ',')).map trimSymbols

/-- What becomes of a text. -/
inductive Interpolates (c : Context) (syms : List Symbol) : Except ArrayInText Json → Prop
  /-- Exactly one reference to an array is that array. -/
  | array {items : List Json} (h : wholeItems? c (trimSymbols syms) = some items) :
    Interpolates c syms (.ok (.array items))
  /-- A list in brackets that refers to an array is one array. -/
  | list {inner : List Symbol} {path : List Char} {values : Except ArrayInText (List Json)}
    (hinner : trimSymbols syms = bracketed inner) (harray : Embedded c inner path)
    (h : Listed c (entries inner) values) : Interpolates c syms (values.map .array)
  /-- Everything else is a text, with the blanks around it. -/
  | text {cs : Except ArrayInText (List Char)} (hwhole : wholeItems? c (trimSymbols syms) = none)
    (hlist : ∀ inner path, trimSymbols syms = bracketed inner → ¬ Embedded c inner path)
    (h : Written c syms cs) : Interpolates c syms (cs.map fun cs => .string (String.ofList cs))

/-- Whether an array would have to become part of a text: of an entry of a list, or of a text that
is no list. -/
def Unfit (c : Context) (syms : List Symbol) : Prop :=
  wholeItems? c (trimSymbols syms) = none ∧
    ((∃ inner, trimSymbols syms = bracketed inner ∧ (∃ path, Embedded c inner path) ∧
      ∃ entry ∈ entries inner, wholeItems? c entry = none ∧ ∃ path, Embedded c entry path) ∨
    (∀ inner path, trimSymbols syms = bracketed inner → ¬ Embedded c inner path) ∧
      ∃ path, Embedded c syms path)

/-! ### Pieces -/

variable {c : Context}

theorem reference_mem_symbols {path cs : List Char} :
    .reference path ∈ symbols cs ↔ .reference path ∈ splitReferences cs := by
  rw [symbols, List.mem_flatMap]
  constructor
  · rintro ⟨piece, hpiece, hmem⟩
    cases piece with
    | literal l =>
      obtain ⟨x, -, hx⟩ := List.mem_map.1 hmem
      cases hx
    | reference p =>
      obtain rfl := Symbol.reference.inj (List.mem_singleton.1 hmem)
      exact hpiece
  · exact fun h => ⟨_, h, List.mem_singleton_self _⟩

/-- Every piece of a text has a symbol. -/
theorem symbols_ne_nil_of_mem {cs : List Char} {piece : Piece} (h : piece ∈ splitReferences cs) :
    piece.symbols ≠ [] := by
  have hproper := (scans_splitReferences cs).proper piece h
  cases piece with
  | literal l => exact mt List.map_eq_nil_iff.1 hproper
  | reference path => exact List.cons_ne_nil _ _

theorem wholeItems?_map_char (l : List Char) : wholeItems? c (l.map .char) = none := by
  cases l with
  | nil => rfl
  | cons x l => cases l <;> rfl

/-- A text is exactly one reference to an array if its symbols are. -/
theorem referredItems?_eq (c : Context) (cs : List Char) :
    referredItems? c cs = wholeItems? c (symbols cs) := by
  have hne : ∀ piece ∈ splitReferences cs, piece.symbols ≠ [] := fun _ => symbols_ne_nil_of_mem
  unfold referredItems? singleReference? symbols
  generalize splitReferences cs = pieces at hne
  cases pieces with
  | nil => rfl
  | cons piece pieces =>
    cases pieces with
    | nil =>
      cases piece with
      | literal l =>
        rw [List.flatMap_singleton, Piece.symbols, wholeItems?_map_char]
        rfl
      | reference path => rfl
    | cons next pieces =>
      -- Two pieces have two symbols at least.
      obtain ⟨x, xs, hx⟩ := List.exists_cons_of_ne_nil (hne piece List.mem_cons_self)
      obtain ⟨y, ys, hy⟩ := List.exists_cons_of_ne_nil (hne next (by simp))
      have hsyms : (piece :: next :: pieces).flatMap Piece.symbols =
          x :: (xs ++ y :: (ys ++ pieces.flatMap Piece.symbols)) := by
        simp [List.flatMap_cons, hx, hy]
      have hnone : ∀ zs, wholeItems? c (x :: (xs ++ y :: zs)) = none := by
        intro zs
        cases xs <;> rfl
      rw [hsyms, hnone]
      cases piece <;> rfl

theorem refersToArray_iff {cs : List Char} :
    refersToArray c cs = true ↔ ∃ path, Embedded c (symbols cs) path := by
  simp only [refersToArray, List.any_eq_true, Embedded, reference_mem_symbols]
  constructor
  · rintro ⟨piece, hpiece, harray⟩
    cases piece with
    | literal l => cases harray
    | reference path =>
      dsimp only at harray
      split at harray
      · rename_i items hitems
        exact ⟨path, hpiece, items, hitems⟩
      · cases harray
  · rintro ⟨path, hpath, items, hitems⟩
    exact ⟨_, hpath, by simp [hitems]⟩

/-- A piece is replaced by what takes the place of its symbols. -/
theorem written_resolve (c : Context) (piece : Piece) :
    Written c piece.symbols (piece.resolve c) := by
  cases piece with
  | literal l =>
    have hchars : (Piece.literal l).symbols.flatMap (·.insertion c) = l := by
      simp [Piece.symbols, Symbol.insertion, List.flatMap_map]
    have hwritten : Written c (Piece.literal l).symbols
        (.ok ((Piece.literal l).symbols.flatMap (·.insertion c))) := by
      refine .text ?_
      rintro path ⟨hmem, -⟩
      simp [Piece.symbols] at hmem
    rwa [hchars] at hwritten
  | reference path =>
    by_cases harray : ∃ items, c.lookup? path = some (.array items)
    · obtain ⟨items, hitems⟩ := harray
      rw [Piece.resolve, hitems]
      exact .fault ⟨List.mem_singleton_self _, items, hitems⟩
    · have htext : (Piece.reference path).resolve c =
          .ok ((Piece.reference path).symbols.flatMap (·.insertion c)) := by
        rw [Piece.resolve, Piece.symbols, List.flatMap_singleton, Symbol.insertion]
        cases hlookup : c.lookup? path with
        | none => rfl
        | some v =>
          cases v with
          | array items => exact absurd ⟨items, hlookup⟩ harray
          | null | bool | integer | real | string | object => rfl
      rw [htext]
      refine .text ?_
      rintro other ⟨hmem, hother⟩
      obtain rfl := Symbol.reference.inj (List.mem_singleton.1 hmem)
      exact harray hother

theorem embedded_append_iff {as bs : List Symbol} {path : List Char} :
    Embedded c (as ++ bs) path ↔ Embedded c as path ∨ Embedded c bs path := by
  simp only [Embedded, List.mem_append, or_and_right]

theorem written_resolvePieces (c : Context) (pieces : List Piece) :
    Written c (pieces.flatMap Piece.symbols) (resolvePieces c pieces) := by
  induction pieces with
  | nil => exact .text fun path h => List.not_mem_nil h.1
  | cons piece pieces ih =>
    have hpiece := written_resolve c piece
    rw [List.flatMap_cons, resolvePieces]
    generalize piece.resolve c = answer at hpiece ⊢
    generalize resolvePieces c pieces = answers at ih ⊢
    cases hpiece with
    | fault h => exact .fault (embedded_append_iff.2 (.inl h))
    | text hfirst =>
      cases ih with
      | fault h => exact .fault (embedded_append_iff.2 (.inr h))
      | text hrest =>
        have hnone : ∀ path, ¬ Embedded c (piece.symbols ++ pieces.flatMap Piece.symbols) path :=
          fun path h => (embedded_append_iff.1 h).elim (hfirst path) (hrest path)
        have hwritten := Written.text hnone
        rwa [List.flatMap_append] at hwritten

/-- A text is replaced by what takes the place of its symbols. -/
theorem written_substitute (c : Context) (cs : List Char) :
    Written c (symbols cs) (substitute c cs) := written_resolvePieces c _

/-! ### Lists in brackets -/

/-- The entries of a list are replaced one after the other. -/
theorem listed_listItems (c : Context) (parts : List (List Char)) :
    Listed c (parts.map fun part => symbols (trimChars part)) (listItems c parts) := by
  induction parts with
  | nil => exact .items (List.forall_mem_nil _)
  | cons part parts ih =>
    have hpart := written_substitute c (trimChars part)
    rw [List.map_cons, listItems, entryItems, referredItems?_eq]
    generalize symbols (trimChars part) = entry at hpart ⊢
    generalize substitute c (trimChars part) = answer at hpart ⊢
    generalize listItems c parts = answers at ih ⊢
    cases hwhole : wholeItems? c entry with
    | some items =>
      cases ih with
      | fault hentry hnone h => exact .fault (List.mem_cons_of_mem _ hentry) hnone h
      | items hrest =>
        have hfirst : wholeItems? c entry = none → ∀ path, ¬ Embedded c entry path := by
          intro hnone
          rw [hwhole] at hnone
          cases hnone
        have hvalues : entryValues c entry = items := by simp [entryValues, hwhole]
        have hlisted := Listed.items (List.forall_mem_cons.2 ⟨hfirst, hrest⟩)
        rw [List.flatMap_cons, hvalues] at hlisted
        exact hlisted
    | none =>
      cases hpart with
      | fault h => exact .fault List.mem_cons_self hwhole h
      | text htext =>
        cases ih with
        | fault hentry hnone h => exact .fault (List.mem_cons_of_mem _ hentry) hnone h
        | items hrest =>
          have hvalues : entryValues c entry =
              [.string (String.ofList (entry.flatMap (·.insertion c)))] := by
            simp [entryValues, hwhole]
          have hlisted := Listed.items (List.forall_mem_cons.2 ⟨fun _ => htext, hrest⟩)
          rw [List.flatMap_cons, hvalues] at hlisted
          exact hlisted

theorem betweenBrackets?_eq_some_iff {cs inner : List Char} :
    betweenBrackets? cs = some inner ↔ cs = '[' :: (inner ++ [']']) := by
  unfold betweenBrackets?
  constructor
  · intro h
    split at h
    · rename_i rest
      split at h
      · rename_i hlast
        obtain rfl := Option.some.inj h
        obtain ⟨front, rfl⟩ := List.getLast?_eq_some_iff.1 hlast
        rw [List.dropLast_concat]
      · cases h
    · cases h
  · rintro rfl
    simp

/-- A text is in brackets exactly if its symbols are. -/
theorem symbols_eq_bracketed_iff {cs : List Char} {syms : List Symbol} :
    symbols cs = bracketed syms ↔
      ∃ inner, betweenBrackets? cs = some inner ∧ symbols inner = syms := by
  simp only [betweenBrackets?_eq_some_iff]
  exact symbols_eq_brackets_iff

theorem bracketed_inj {as bs : List Symbol} (h : bracketed as = bracketed bs) : as = bs :=
  List.append_cancel_right (List.cons.inj h).2

/-- Symbols in brackets are no single reference. -/
theorem wholeItems?_bracketed (inner : List Symbol) : wholeItems? c (bracketed inner) = none := by
  cases inner <;> rfl

theorem mem_of_mem_trimSymbols {sym : Symbol} {syms : List Symbol} (h : sym ∈ trimSymbols syms) :
    sym ∈ syms := by
  rw [trimSymbols, List.mem_reverse] at h
  have hmem := (List.dropWhile_sublist _).mem h
  rw [List.mem_reverse] at hmem
  exact (List.dropWhile_sublist _).mem hmem

/-- The entries of a list whose paths have no comma are those between the commas of the text. -/
theorem entries_symbols {inner : List Char}
    (hcomma : ∀ path, .reference path ∈ symbols inner → ',' ∉ path) :
    (inner.splitOn ',').map (fun part => symbols (trimChars part)) = entries (symbols inner) := by
  rw [entries, ← (readsAs_symbols inner).splitOn hcomma, List.map_map]
  exact List.map_congr_left fun part _ => symbols_trimChars part

/-! ### Texts -/

theorem interpolates_interpolateText {cs : List Char}
    (hcomma : ∀ path, .reference path ∈ symbols cs → ',' ∉ path) :
    Interpolates c (symbols cs) (interpolateText c cs) := by
  have hwritten := written_substitute c cs
  simp only [interpolateText, referredItems?_eq, symbols_trimChars]
  cases hwhole : wholeItems? c (trimSymbols (symbols cs)) with
  | some items => exact .array hwhole
  | none =>
    cases hbrackets : betweenBrackets? (trimChars cs) with
    | none =>
      refine .text hwhole (fun inner path hinner _ => ?_) hwritten
      rw [← symbols_trimChars, symbols_eq_bracketed_iff] at hinner
      obtain ⟨front, hfront, -⟩ := hinner
      rw [hbrackets] at hfront
      cases hfront
    | some inner =>
      have hinner : trimSymbols (symbols cs) = bracketed (symbols inner) := by
        rw [← symbols_trimChars, symbols_eq_bracketed_iff]
        exact ⟨inner, hbrackets, rfl⟩
      by_cases harray : refersToArray c inner = true
      · obtain ⟨path, hpath⟩ := refersToArray_iff.1 harray
        have hlisted := listed_listItems c (inner.splitOn ',')
        rw [entries_symbols] at hlisted
        · dsimp only
          rw [if_pos harray]
          exact .list hinner hpath hlisted
        · intro p hp
          refine hcomma p (mem_of_mem_trimSymbols ?_)
          rw [hinner]
          simp [bracketed, hp]
      · dsimp only
        rw [if_neg harray]
        refine .text hwhole (fun other path hother h => harray ?_) hwritten
        rw [hinner] at hother
        obtain rfl := bracketed_inj hother
        exact refersToArray_iff.2 ⟨path, h⟩

/-- A text without references stays as it is. -/
theorem interpolates_of_not_reference {cs : List Char}
    (h : ∀ path, .reference path ∉ symbols cs) :
    Interpolates c (symbols cs) (.ok (.string (String.ofList cs))) := by
  have hchars : (symbols cs).flatMap (·.insertion c) = cs := by
    conv_rhs => rw [← flatMap_source_symbols cs]
    refine List.flatMap_congr fun sym hsym => ?_
    cases sym with
    | char x => rfl
    | reference path => exact absurd hsym (h path)
  have hnone : ∀ path, ¬ Embedded c (symbols cs) path := fun path hpath => h path hpath.1
  have hwritten := Written.text hnone
  rw [hchars] at hwritten
  refine .text ?_ (fun inner path hinner hpath => h path (mem_of_mem_trimSymbols ?_)) hwritten
  · have htrim : ∀ sym ∈ trimSymbols (symbols cs), ∃ x, sym = .char x := by
      intro sym hsym
      cases sym with
      | char x => exact ⟨x, rfl⟩
      | reference path => exact absurd (mem_of_mem_trimSymbols hsym) (h path)
    generalize trimSymbols (symbols cs) = syms at htrim
    unfold wholeItems?
    split
    · rename_i sym
      obtain ⟨x, rfl⟩ := htrim sym (List.mem_singleton_self _)
      rfl
    · rfl
  · rw [hinner]
    simp [bracketed, hpath.1]

/-- Interpolation fails exactly if an array would have to become part of a text. -/
theorem Interpolates.isError_iff {syms : List Symbol} {result : Except ArrayInText Json}
    (h : Interpolates c syms result) : (∃ fault, result = .error fault) ↔ Unfit c syms := by
  cases h with
  | array hitems =>
    refine iff_of_false (fun ⟨fault, hfault⟩ => nomatch hfault) fun hunfit => ?_
    rw [hunfit.1] at hitems
    cases hitems
  | @list inner path values hinner harray h =>
    constructor
    · rintro ⟨fault, hfault⟩
      have hwhole := wholeItems?_bracketed (c := c) inner
      rw [← hinner] at hwhole
      cases h with
      | items h => cases hfault
      | fault hentry hnone h =>
        exact ⟨hwhole, .inl ⟨inner, hinner, ⟨path, harray⟩, _, hentry, hnone, _, h⟩⟩
    · rintro ⟨-, ⟨other, hother, -, entry, hentry, hnone, path', hpath'⟩ | ⟨hlist, -⟩⟩
      · obtain rfl := bracketed_inj (hinner.symm.trans hother)
        cases h with
        | items h => exact absurd hpath' (h entry hentry hnone path')
        | fault _ _ h => exact ⟨_, rfl⟩
      · exact absurd harray (hlist inner path hinner)
  | @text cs hwhole hlist h =>
    constructor
    · rintro ⟨fault, hfault⟩
      cases h with
      | text h => cases hfault
      | fault h => exact ⟨hwhole, .inr ⟨hlist, _, h⟩⟩
    · rintro ⟨-, ⟨inner, hinner, ⟨path, hpath⟩, -⟩ | ⟨-, path, hpath⟩⟩
      · exact absurd hpath (hlist inner path hinner)
      · cases h with
        | text h => exact absurd hpath (h path)
        | fault h => exact ⟨_, rfl⟩

/-- **What interpolation makes of a text.**  A text is read in exactly one way, and if no path in it
has a comma, its symbols say what becomes of it: an array if it is exactly one reference to one, one
array of the entries if it is a list in brackets that refers to an array, and else a text.  It fails
exactly if an array would have to become part of a text. -/
theorem interpolate_resolves (c : Context) (s : String) :
    ∃ syms, (∀ other, ReadsAs s.toList other ↔ other = syms) ∧
      ((∀ path, .reference path ∈ syms → ',' ∉ path) →
        Interpolates c syms (interpolate c (.string s)) ∧
          ((∃ fault, interpolate c (.string s) = .error fault) ↔ Unfit c syms)) := by
  refine ⟨symbols s.toList, fun other => readsAs_iff, fun hcomma => ?_⟩
  have hinterpolates : Interpolates c (symbols s.toList) (interpolate c (.string s)) := by
    rw [interpolate]
    split
    · exact interpolates_interpolateText hcomma
    · rename_i hnone
      have hreferences : ∀ path, .reference path ∉ symbols s.toList := by
        intro path hpath
        rw [reference_mem_symbols] at hpath
        exact hnone (List.any_eq_true.2 ⟨_, hpath, rfl⟩)
      have hsame := interpolates_of_not_reference (c := c) hreferences
      rwa [String.ofList_toList] at hsame
  exact ⟨hinterpolates, hinterpolates.isError_iff⟩

/-- A list of an array and a text, where a result is put into the text and not read again. -/
theorem interpolate_resolves_list :
    (interpolate
        ((Context.empty.insert "a" (.array [.integer 1])).insert "b" (.string ",$\x7ba\x7d"))
        (.string " [$\x7ba\x7d, 2$\x7bb\x7d]")).toOption.map Json.text =
      some "[1,\"2,$\x7ba\x7d\"]" ∧
      ¬ Unfit ((Context.empty.insert "a" (.array [.integer 1])).insert "b" (.string ",$\x7ba\x7d"))
        (symbols " [$\x7ba\x7d, 2$\x7bb\x7d]".toList) := by
  have hresult : (interpolate
        ((Context.empty.insert "a" (.array [.integer 1])).insert "b" (.string ",$\x7ba\x7d"))
        (.string " [$\x7ba\x7d, 2$\x7bb\x7d]")).toOption.map Json.text =
      some "[1,\"2,$\x7ba\x7d\"]" := by decide +kernel
  obtain ⟨syms, hreads, hinterpolates⟩ := interpolate_resolves
    ((Context.empty.insert "a" (.array [.integer 1])).insert "b" (.string ",$\x7ba\x7d"))
    " [$\x7ba\x7d, 2$\x7bb\x7d]"
  obtain rfl := (hreads _).1 (readsAs_symbols _)
  have hsyms : symbols " [$\x7ba\x7d, 2$\x7bb\x7d]".toList =
      [.char ' ', .char '[', .reference ['a'], .char ',', .char ' ', .char '2', .reference ['b'],
        .char ']'] := by decide +kernel
  refine ⟨hresult, fun hunfit => ?_⟩
  obtain ⟨fault, hfault⟩ := (hinterpolates (by rw [hsyms]; simp)).2.2 hunfit
  rw [hfault] at hresult
  cases hresult

end BoundQuery
