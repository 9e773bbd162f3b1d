import BoundQuery.Clause.Cast
import BoundQuery.Proofs.Binding.Interpolation
import BoundQuery.Proofs.Decimal.Digits
import BoundQuery.Proofs.Except
import BoundQuery.Proofs.Text.Trim

/-!
# Integers are bound exactly

An integer of 64 bits may come as a number, as a text that writes it, or by references to earlier
results.  It is the same integer in the end, as no rounding is on any of these ways.

* `Numeral`, `Padded` : the texts that write an integer, and blanks around a text;
* `Json.Holds` : the values that are an integer; `numberOfText?_eq`, `toNumber?_eq` and
  `normalizeScalar_number` read it from each of them;
* `Cites` : a text that is one reference, blanks aside; `Cites.interpolate_holds` : one to an
  integer becomes a text that writes it;
* `Gathers` : the items of an array that a text refers to, or of the entries of a list in brackets;
  `Gathers.interpolate_eq` : they become one array;
* `integer_exact` : **a number parameter that is an integer binds that integer, and every item of a
  list that is one is bound as it at its place**; so do the casts of filter values.
-/

namespace BoundQuery

open Text

/-! ### Texts that write an integer -/

/-- An integer in decimal digits: with a plus sign or none if it is not negative, with a minus sign
if it is not positive, and with any number of zeros in front of its digits. -/
inductive Numeral (n : Int64) : List Char → Prop
  /-- Without a sign. -/
  | bare (zeros : Nat) (h : 0 ≤ n.toInt) : Numeral n (decimal zeros n.toInt.natAbs)
  /-- With a plus sign. -/
  | plus (zeros : Nat) (h : 0 ≤ n.toInt) : Numeral n ('+' :: decimal zeros n.toInt.natAbs)
  /-- With a minus sign. -/
  | minus (zeros : Nat) (h : n.toInt ≤ 0) : Numeral n ('-' :: decimal zeros n.toInt.natAbs)

/-- A text with blanks around it. -/
inductive Padded (core : List Char) : List Char → Prop
  /-- Any blanks, before and after it. -/
  | intro (front back : List Char) (hfront : ∀ c ∈ front, isBlank c = true)
    (hback : ∀ c ∈ back, isBlank c = true) : Padded core (front ++ core ++ back)

/-- Whether a value is an integer: as a number, or as a text that writes it. -/
inductive Json.Holds (n : Int64) : Json → Prop
  /-- As a number. -/
  | integer : Holds n (.integer n.toInt)
  /-- As a text. -/
  | text {s : String} {core : List Char} (hcore : Numeral n core) (hs : Padded core s.toList) :
    Holds n (.string s)

theorem Padded.refl (core : List Char) : Padded core core := by
  have h := @Padded.intro core [] [] nofun nofun
  rwa [List.nil_append, List.append_nil] at h

/-- More blanks make no difference. -/
theorem Padded.padded {core cs : List Char} (h : Padded core cs) {front back : List Char}
    (hfront : ∀ c ∈ front, isBlank c = true) (hback : ∀ c ∈ back, isBlank c = true) :
    Padded core (front ++ cs ++ back) := by
  obtain ⟨front', back', hfront', hback'⟩ := h
  have hall := @Padded.intro core (front ++ front') (back' ++ back)
    (fun c hc => (List.mem_append.1 hc).elim (hfront c) (hfront' c))
    (fun c hc => (List.mem_append.1 hc).elim (hback' c) (hback c))
  simpa only [List.append_assoc] using hall

/-- A character of a text with blanks around it is a blank or one of the text. -/
theorem Padded.mem {core cs : List Char} (h : Padded core cs) {c : Char} (hc : c ∈ cs) :
    c ∈ core ∨ isBlank c = true := by
  obtain ⟨front, back, hfront, hback⟩ := h
  rcases List.mem_append.1 hc with hc | hc
  · rcases List.mem_append.1 hc with hc | hc
    · exact .inr (hfront c hc)
    · exact .inl hc
  · exact .inr (hback c hc)

theorem Padded.trimChars_eq {core cs : List Char} (h : Padded core cs) {first last : Char}
    (hhead : core.head? = some first) (hfirst : isBlank first = false)
    (hend : core.getLast? = some last) (hlast : isBlank last = false) : trimChars cs = core := by
  obtain ⟨front, back, hfront, hback⟩ := h
  exact trimChars_of_ends hfront hback hhead hfirst hend hlast

/-- A number without a sign begins with a digit. -/
theorem splitSign_decimal (zeros n : Nat) :
    splitSign (decimal zeros n) = (false, decimal zeros n) := by
  unfold splitSign
  split
  next heq => exact absurd (isDigit_of_mem_decimal (heq ▸ List.mem_cons_self)) (by decide)
  next heq => exact absurd (isDigit_of_mem_decimal (heq ▸ List.mem_cons_self)) (by decide)
  next => rfl

/-- Digits behind a sign are read with it. -/
theorem integer?_of_splitSign {cs : List Char} {negative : Bool} {zeros n : Nat}
    (h : splitSign cs = (negative, decimal zeros n)) :
    integer? cs = some (if negative = true then -(n : Int) else n) := by
  simp only [integer?, h, digits?_decimal, Option.bind_eq_bind, Option.bind_some, Option.pure_def,
    Option.map_some]

namespace Numeral

variable {n : Int64} {core : List Char} (h : Numeral n core)

include h

/-- A numeral has digits behind a sign or none. -/
theorem exists_digits : ∃ sign zeros, (sign = [] ∨ sign = ['+'] ∨ sign = ['-']) ∧
    core = sign ++ decimal zeros n.toInt.natAbs := by
  cases h with
  | bare zeros => exact ⟨[], zeros, .inl rfl, rfl⟩
  | plus zeros => exact ⟨['+'], zeros, .inr (.inl rfl), rfl⟩
  | minus zeros => exact ⟨['-'], zeros, .inr (.inr rfl), rfl⟩

theorem mem {c : Char} (hc : c ∈ core) : c = '+' ∨ c = '-' ∨ c.isDigit = true := by
  obtain ⟨sign, zeros, hsign, rfl⟩ := h.exists_digits
  rcases List.mem_append.1 hc with hc | hc
  · rcases hsign with rfl | rfl | rfl
    · cases hc
    · exact .inl (List.mem_singleton.1 hc)
    · exact .inr (.inl (List.mem_singleton.1 hc))
  · exact .inr (.inr (isDigit_of_mem_decimal hc))

theorem isBlank_of_mem {c : Char} (hc : c ∈ core) : isBlank c = false := by
  rcases h.mem hc with rfl | rfl | hdigit
  · decide
  · decide
  · exact isBlank_of_isDigit hdigit

theorem ne_nil : core ≠ [] := by
  obtain ⟨sign, zeros, -, rfl⟩ := h.exists_digits
  exact List.append_ne_nil_of_right_ne_nil sign (decimal_ne_nil zeros _)

/-- A numeral has no blanks of its own. -/
theorem trimChars_eq {cs : List Char} (hcs : Padded core cs) : trimChars cs = core :=
  hcs.trimChars_eq (List.head?_eq_some_head h.ne_nil) (h.isBlank_of_mem (List.head_mem h.ne_nil))
    (List.getLast?_eq_some_getLast h.ne_nil) (h.isBlank_of_mem (List.getLast_mem h.ne_nil))

/-- The integer is read from it. -/
theorem int64?_eq : int64? core = some n := by
  have hvalue : integer? core = some n.toInt := by
    cases h with
    | bare zeros hn => rw [integer?_of_splitSign (splitSign_decimal zeros _), if_neg (by simp),
        Int.natAbs_of_nonneg hn]
    | plus zeros hn => rw [integer?_of_splitSign rfl, if_neg (by simp), Int.natAbs_of_nonneg hn]
    | minus zeros hn =>
      rw [integer?_of_splitSign rfl, if_pos rfl, Int.ofNat_natAbs_of_nonpos hn, Int.neg_neg]
  rw [int64?, hvalue, Option.bind_some, int64OfInt?_toInt]

/-- What writes an integer refers to nothing. -/
theorem not_refers {cs : List Char} (hcs : Padded core cs) : ¬ Refers cs := by
  intro hrefers
  rcases hcs.mem hrefers.mem_closing with hmem | hblank
  · rcases h.mem hmem with heq | heq | hdigit
    · cases heq
    · cases heq
    · cases hdigit
  · cases hblank

end Numeral

theorem toList_repr (n : Nat) : n.repr.toList = decimal 0 n := by
  rw [← Nat.toString_eq_repr, Nat.toString_eq_ofList_toDigits, String.toList_ofList]
  rfl

/-- A printed integer is a numeral. -/
theorem numeral_toString (n : Int64) : Numeral n (toString n.toInt).toList := by
  rw [Int.toString_eq_repr, Int.repr_eq_if]
  split
  next hn =>
    have habs : n.toInt.toNat = n.toInt.natAbs := by omega
    rw [toList_repr, habs]
    exact .bare 0 hn
  next hn =>
    have habs : (-n.toInt).toNat = n.toInt.natAbs := by omega
    rw [String.toList_append, toList_repr, habs]
    exact .minus 0 (by omega)

/-! ### Values that are integers -/

variable {n : Int64}

/-- A text that writes an integer is that integer, without a detour. -/
theorem numberOfText?_eq {s : String} {core : List Char} (hcore : Numeral n core)
    (hs : Padded core s.toList) : numberOfText? s = some (.int n) := by
  simp only [numberOfText?, hcore.trimChars_eq hs, hcore.int64?_eq]

theorem numberOfJson?_eq (n : Int64) : numberOfJson? (.integer n.toInt) = some (.int n) := by
  simp only [numberOfJson?, Json.int64?, int64OfInt?_toInt]

theorem toNumber?_eq {v : Json} (h : v.Holds n) : toNumber? v = some (.int n) := by
  cases h with
  | integer => exact numberOfJson?_eq n
  | text hcore hs => exact numberOfText?_eq hcore hs

/-- **A value that is an integer is bound as that integer.** -/
theorem normalizeScalar_number {v : Json} (h : v.Holds n) :
    normalizeScalar .number v = .ok (.int n) := by
  cases h with
  | integer => simp only [normalizeScalar, Json.isNull, asNumber, numberOfJson?_eq]; rfl
  | text hcore hs =>
    simp only [normalizeScalar, Json.isNull, asNumber, numberOfText?_eq hcore hs]
    rfl

/-- A value is one integer at most. -/
theorem Json.Holds.unique {m : Int64} {v : Json} (hm : v.Holds m) (hn : v.Holds n) : m = n :=
  BindValue.int.inj (Option.some.inj ((toNumber?_eq hm).symm.trans (toNumber?_eq hn)))

theorem normalize_of_holds {v : Json} (h : v.Holds n) :
    normalize .number v = .ok (.scalar (.int n)) := by
  cases h with
  | integer => simp only [normalize, normalizeScalar_number .integer]
  | text hcore hs => simp only [normalize, normalizeScalar_number (.text hcore hs)]

theorem argument_of_holds {v : Json} (h : v.Holds n) (c : Context) :
    Parameter.argument c ⟨.number, v⟩ = .ok (.scalar (.int n)) := by
  -- What is an integer refers to nothing.
  have hclosed : Parameter.Closed ⟨.number, v⟩ := by
    rintro text ⟨⟩
    cases h with
    | text hcore hs => exact hcore.not_refers hs
  rw [hclosed.argument_eq c]
  simp only [normalize_of_holds h, Except.mapError]

/-! ### References -/

/-- Whether a text is one reference by a path, blanks around it aside. -/
structure Cites (path cs : List Char) : Prop where
  /-- The path is not empty. -/
  ne_nil : path ≠ []
  /-- It does not close the reference. -/
  closed : '\x7d' ∉ path
  /-- There are only blanks around the reference. -/
  padded : Padded (Symbol.reference path).source cs

/-- A reference is read as one. -/
theorem Cites.readsAs {path cs : List Char} (h : Cites path cs) :
    ReadsAs (Symbol.reference path).source [.reference path] :=
  .reference h.ne_nil h.closed .nil

namespace Cites

variable {c : Context} {path cs : List Char} (h : Cites path cs)

include h

theorem trimChars_eq : trimChars cs = (Symbol.reference path).source := by
  have hlast : (Symbol.reference path).source.getLast? = some '\x7d' := by
    rw [Symbol.source, List.getLast?_cons_cons, List.getLast?_cons, List.getLast?_append]
    rfl
  exact h.padded.trimChars_eq rfl (by decide) hlast (by decide)

theorem symbols_trimChars : symbols (trimChars cs) = [.reference path] := by
  rw [h.trimChars_eq]
  exact (readsAs_iff.1 h.readsAs).symm

/-- Only blanks stand around the reference. -/
theorem exists_symbols : ∃ front back : List Char, (∀ x ∈ front, isBlank x = true) ∧
    (∀ x ∈ back, isBlank x = true) ∧
    symbols cs = front.map .char ++ [.reference path] ++ back.map .char := by
  have hreads := h.readsAs
  obtain ⟨-, -, hpadded⟩ := h
  obtain ⟨front, back, hfront, hback⟩ := hpadded
  refine ⟨front, back, hfront, hback, (readsAs_iff.1 ?_).symm⟩
  refine (hreads.prepend fun x hx => ?_).append fun x hx => ?_
  · exact ne_of_isBlank (hfront x hx) (by decide)
  · exact ⟨ne_of_isBlank (hback x hx) (by decide), ne_of_isBlank (hback x hx) (by decide)⟩

theorem mem_symbols : .reference path ∈ symbols cs := by
  obtain ⟨front, back, -, -, hsyms⟩ := h.exists_symbols
  simp [hsyms]

theorem referredItems?_trimChars (c : Context) :
    referredItems? c (trimChars cs) = (Symbol.reference path).items? c := by
  rw [referredItems?_eq, h.symbols_trimChars, wholeItems?]

theorem referredItems?_array {items : List Json} (hlookup : c.lookup? path = some (.array items)) :
    referredItems? c (trimChars cs) = some items := by
  rw [h.referredItems?_trimChars, Symbol.items?, hlookup]

/-- A reference to an array becomes the array. -/
theorem interpolateText_array {items : List Json} (hlookup : c.lookup? path = some (.array items)) :
    interpolateText c cs = .ok (.array items) := by
  simp only [interpolateText, h.referredItems?_array hlookup]

/-- A reference to a value that is no array is replaced in place. -/
theorem interpolateText_value {v : Json} (hlookup : c.lookup? path = some v)
    (hv : ∀ items, v ≠ .array items) : ∃ text, interpolateText c cs =
      .ok (.string (String.ofList text)) ∧ Padded ((Symbol.reference path).insertion c) text := by
  obtain ⟨front, back, hfront, hback, hsyms⟩ := h.exists_symbols
  have hitems : referredItems? c (trimChars cs) = none := by
    rw [h.referredItems?_trimChars, Symbol.items?, hlookup]
    cases v with
    | array items => exact absurd rfl (hv items)
    | null | bool | integer | real | string | object => rfl
  have hbrackets : betweenBrackets? (trimChars cs) = none := by
    rw [h.trimChars_eq]
    rfl
  have hchars (l : List Char) : (l.map Symbol.char).flatMap (·.insertion c) = l := by
    rw [List.flatMap_map]
    exact List.flatMap_singleton' l
  have htext : substitute c cs = .ok (front ++ (Symbol.reference path).insertion c ++ back) := by
    have hwritten := written_substitute c cs
    generalize substitute c cs = answer at hwritten ⊢
    cases hwritten with
    | text hnone =>
      rw [hsyms, List.flatMap_append, List.flatMap_append, hchars, hchars, List.flatMap_singleton]
    | @fault other hembedded =>
      obtain ⟨hmem, items, hother⟩ := hembedded
      have hpath : other = path := by simpa [hsyms] using hmem
      rw [hpath, hlookup] at hother
      exact absurd (Option.some.inj hother) (hv items)
  refine ⟨_, ?_, .intro front back hfront hback⟩
  simp only [interpolateText, hitems, hbrackets, htext, Except.map]

end Cites

/-- A text with a reference is resolved. -/
theorem interpolate_of_mem {c : Context} {s : String} {path : List Char}
    (h : .reference path ∈ symbols s.toList) :
    interpolate c (.string s) = interpolateText c s.toList := by
  have hany : (splitReferences s.toList).any Piece.isReference = true :=
    List.any_eq_true.2 ⟨_, reference_mem_symbols.1 h, rfl⟩
  rw [interpolate, if_pos hany]

/-- What is put in for an integer writes it. -/
theorem Json.Holds.insertion {v : Json} (h : v.Holds n) {c : Context} {path : List Char}
    (hlookup : c.lookup? path = some v) :
    ∃ core, Numeral n core ∧ Padded core ((Symbol.reference path).insertion c) := by
  rw [Symbol.insertion, hlookup]
  cases h with
  | integer =>
    have hprinted : (Json.integer n.toInt).compact.toList = (toString n.toInt).toList :=
      String.toList_ofList
    exact ⟨_, numeral_toString n, by simpa only [hprinted] using Padded.refl _⟩
  | text hcore hs => exact ⟨_, hcore, hs⟩

/-- **A reference to an integer becomes a text that writes it.** -/
theorem Cites.interpolate_holds {c : Context} {path : List Char} {s : String}
    (h : Cites path s.toList) {v : Json} (hlookup : c.lookup? path = some v) (hv : v.Holds n) :
    ∃ w, interpolate c (.string s) = .ok w ∧ w.Holds n := by
  have hnone : ∀ items, v ≠ .array items := by
    rintro items rfl
    cases hv
  obtain ⟨core, hcore, hinsertion⟩ := hv.insertion hlookup
  obtain ⟨text, htext, hpadded⟩ := h.interpolateText_value hlookup hnone
  refine ⟨_, (interpolate_of_mem h.mem_symbols).trans htext, .text hcore ?_⟩
  rw [String.toList_ofList]
  obtain ⟨front, back, hfront, hback⟩ := hpadded
  exact hinsertion.padded hfront hback

/-! ### Arrays and lists -/

/-- The items that an entry of a list in brackets adds to it. -/
inductive Adds (c : Context) : List Char → List Json → Prop
  /-- A reference to an array adds the items of the array. -/
  | array {path part : List Char} {items : List Json} (h : Cites path part)
    (hlookup : c.lookup? path = some (.array items)) : Adds c part items
  /-- Any other entry adds itself, with its references replaced. -/
  | text {part text : List Char} (h : substitute c (trimChars part) = .ok text) :
    Adds c part [.string (String.ofList text)]

/-- The items that a text gathers. -/
inductive Gathers (c : Context) : List Char → List Json → Prop
  /-- A reference to an array gathers the items of the array. -/
  | array {path cs : List Char} {items : List Json} (h : Cites path cs)
    (hlookup : c.lookup? path = some (.array items)) : Gathers c cs items
  /-- A list in brackets gathers those of its entries, if one of them is a reference to an array and
  no path in it has a comma. -/
  | list {inner cs : List Char} {groups : List (List Json)}
    (hcs : Padded ('[' :: (inner ++ [']'])) cs)
    (hcomma : ∀ path, .reference path ∈ symbols inner → ',' ∉ path)
    (harray : ∃ part ∈ inner.splitOn ',', ∃ path items, Cites path part ∧
      c.lookup? path = some (.array items))
    (h : List.Forall₂ (Adds c) (inner.splitOn ',') groups) : Gathers c cs groups.flatten

variable {c : Context}

/-- A text whose references can be replaced is no reference to an array. -/
theorem referredItems?_of_substitute {cs text : List Char} (h : substitute c cs = .ok text) :
    referredItems? c cs = none := by
  have hwritten := written_substitute c cs
  rw [h] at hwritten
  rw [referredItems?_eq]
  cases hwritten with
  | text hnone =>
    unfold wholeItems?
    split
    next sym hsym =>
      cases sym with
      | char x => rfl
      | reference path =>
        rw [Symbol.items?]
        split
        next items hlookup =>
          exact absurd ⟨hsym ▸ List.mem_singleton_self _, items, hlookup⟩ (hnone path)
        next => rfl
    next => rfl

theorem Adds.entryItems_eq {part : List Char} {items : List Json} (h : Adds c part items) :
    entryItems c (trimChars part) = .ok items := by
  cases h with
  | array h hlookup => simp only [entryItems, h.referredItems?_array hlookup]
  | text h => simp only [entryItems, referredItems?_of_substitute h, h, Except.map]

theorem listItems_eq {parts : List (List Char)} {groups : List (List Json)}
    (h : List.Forall₂ (Adds c) parts groups) : listItems c parts = .ok groups.flatten := by
  induction h with
  | nil => rfl
  | cons hpart _ ih => simp only [listItems, hpart.entryItems_eq, ih, Except.map, List.flatten_cons]

/-- A member of a part between separators is one of the whole. -/
theorem mem_of_mem_splitOn {α : Type} [DecidableEq α] {a x : α} {xs part : List α}
    (hpart : part ∈ xs.splitOn a) (hx : x ∈ part) : x ∈ xs := by
  induction xs generalizing part with
  | nil =>
    rw [List.splitOn_nil, List.mem_singleton] at hpart
    rwa [hpart] at hx
  | cons y ys ih =>
    rw [List.splitOn_cons_eq_if_modifyHead] at hpart
    split at hpart
    next =>
      rcases List.mem_cons.1 hpart with rfl | hpart
      · cases hx
      · exact List.mem_cons_of_mem y (ih hpart hx)
    next =>
      cases hparts : ys.splitOn a with
      | nil => rw [hparts] at hpart; cases hpart
      | cons first parts =>
        rw [hparts, List.modifyHead_cons] at hpart
        rcases List.mem_cons.1 hpart with rfl | hpart
        · exact List.mem_cons.2 ((List.mem_cons.1 hx).imp_right
            (ih (hparts ▸ List.mem_cons_self)))
        · exact List.mem_cons_of_mem y (ih (hparts ▸ List.mem_cons_of_mem first hpart) hx)

/-- A symbol of a part between commas is one of the text. -/
theorem mem_symbols_of_mem_splitOn {inner part : List Char} {sym : Symbol}
    (hcomma : ∀ path, .reference path ∈ symbols inner → ',' ∉ path)
    (hpart : part ∈ inner.splitOn ',') (h : sym ∈ symbols part) : sym ∈ symbols inner := by
  have hmem := List.mem_map_of_mem (f := symbols) hpart
  rw [(readsAs_symbols inner).splitOn hcomma] at hmem
  exact mem_of_mem_splitOn hmem h

/-- **What a text gathers becomes one array**, in the order in which it stands there. -/
theorem Gathers.interpolate_eq {s : String} {items : List Json} (h : Gathers c s.toList items) :
    interpolate c (.string s) = .ok (.array items) := by
  cases h with
  | array h hlookup =>
    rw [interpolate_of_mem h.mem_symbols, h.interpolateText_array hlookup]
  | @list inner _ groups hcs hcomma harray h =>
    obtain ⟨part, hpart, path, items, hcites, hlookup⟩ := harray
    have hmem : .reference path ∈ symbols inner :=
      mem_symbols_of_mem_splitOn hcomma hpart hcites.mem_symbols
    have hlast : ('[' :: (inner ++ [']'])).getLast? = some ']' := by
      rw [← List.cons_append, List.getLast?_concat]
    have htrim : trimChars s.toList = '[' :: (inner ++ [']']) :=
      hcs.trimChars_eq rfl (by decide) hlast (by decide)
    have hsyms : trimSymbols (symbols s.toList) = bracketed (symbols inner) := by
      rw [← symbols_trimChars, htrim, symbols_brackets]
      rfl
    have hwhole : referredItems? c (trimChars s.toList) = none := by
      rw [referredItems?_eq, symbols_trimChars, hsyms, wholeItems?_bracketed]
    have hrefers : refersToArray c inner = true :=
      refersToArray_iff.2 ⟨path, hmem, items, hlookup⟩
    have hin : .reference path ∈ symbols s.toList := by
      refine mem_of_mem_trimSymbols ?_
      rw [hsyms]
      simp [bracketed, hmem]
    rw [interpolate_of_mem hin]
    simp only [interpolateText, hwhole, betweenBrackets?_eq_some_iff.2 htrim, hrefers, if_true,
      listItems_eq h, Except.map]

/-! ### Number parameters -/

/-- The items of an array are bound one by one. -/
theorem normalize_array {items : List Json} {a : Argument} :
    normalize .number (.array items) = .ok a ↔ ∃ values, a = .list values ∧
      List.Forall₂ (fun v b => normalizeScalar .number v = .ok b) items values := by
  simp only [← mapM_eq_ok_iff]
  rw [normalize]
  · cases hvalues : items.mapM (normalizeScalar .number) with
    | error fault => simp
    | ok values => simp [eq_comm]
  · simp

theorem Gathers.argument_eq_ok_iff {s : String} {items : List Json}
    (h : Gathers c s.toList items) {a : Argument} :
    Parameter.argument c ⟨.number, .string s⟩ = .ok a ↔ ∃ values, a = .list values ∧
      List.Forall₂ (fun v b => normalizeScalar .number v = .ok b ∧
        ∀ n, v.Holds n → b = .int n) items values := by
  have hargument : Parameter.argument c ⟨.number, .string s⟩ = .ok a ↔
      normalize .number (.array items) = .ok a := by
    rw [Parameter.argument, h.interpolate_eq]
    exact mapError_eq_ok_iff
  rw [hargument, normalize_array]
  refine exists_congr fun values => and_congr_right fun _ => ⟨fun hall => ?_, fun hall => ?_⟩
  · refine hall.imp fun v b hb => ⟨hb, fun n hv => ?_⟩
    rw [normalizeScalar_number hv] at hb
    exact (Except.ok.inj hb).symm
  · exact hall.imp fun v b hb => hb.1

/-- Items that are integers are bound as these, in their order. -/
theorem Gathers.argument_integers {s : String} {items : List Json} (h : Gathers c s.toList items)
    {ns : List Int64} (hns : List.Forall₂ Json.Holds ns items) :
    Parameter.argument c ⟨.number, .string s⟩ = .ok (.list (ns.map .int)) := by
  refine h.argument_eq_ok_iff.2 ⟨ns.map .int, rfl, ?_⟩
  rw [List.forall₂_map_right_iff]
  refine hns.flip.imp fun v n hv => ⟨normalizeScalar_number hv, fun m hm => ?_⟩
  rw [hm.unique hv]

theorem Cites.argument_eq {path : List Char} {s : String} (h : Cites path s.toList) {v : Json}
    (hlookup : c.lookup? path = some v) (hv : v.Holds n) :
    Parameter.argument c ⟨.number, .string s⟩ = .ok (.scalar (.int n)) := by
  obtain ⟨w, hw, hholds⟩ := h.interpolate_holds hlookup hv
  rw [Parameter.argument, hw]
  simp only [normalize_of_holds hholds, Except.mapError]

/-! ### Casts of filter values -/

/-- A numeral is in no quotes. -/
theorem Numeral.stripQuotes_eq {core : List Char} (h : Numeral n core) :
    stripQuotes core = core := by
  obtain ⟨x, rest, rfl⟩ := List.exists_cons_of_ne_nil h.ne_nil
  have hx : ¬ (x = '\x27' ∨ x = '"') := by
    rcases h.mem List.mem_cons_self with rfl | rfl | hdigit
    · decide
    · decide
    · rintro (rfl | rfl) <;> cases hdigit
  rw [stripQuotes, if_neg (fun hquoted => hx hquoted.1)]

theorem castUnwrapped_eq {column : Column} {v : Json} (hcolumn : column.isNumeric = true)
    (h : v.Holds n) : castUnwrapped column v = .ok (.int n) := by
  unfold castUnwrapped
  rw [if_pos hcolumn, toNumber?_eq h]

theorem castValue_eq {column : Column} {v : Json} (hcolumn : column.isNumeric = true)
    (h : v.Holds n) : castValue column v = .ok (.int n) := by
  cases h with
  | integer => exact castUnwrapped_eq hcolumn .integer
  | @text s core hcore hs =>
    have hunwrap : unwrap (.string s) = .string (String.ofList core) := by
      rw [unwrap, hcore.trimChars_eq hs, hcore.stripQuotes_eq]
    rw [castValue, hunwrap]
    · exact castUnwrapped_eq hcolumn (.text hcore (by rw [String.toList_ofList]; exact .refl core))
    · nofun

/-- One pair of quotes around a text that writes an integer makes no difference. -/
theorem castValue_quoted {column : Column} {s : String} {q : Char} {inner : List Char}
    (hcolumn : column.isNumeric = true) (hq : q = '\x27' ∨ q = '"')
    (hs : Padded (q :: (inner ++ [q])) s.toList) (h : (Json.string (String.ofList inner)).Holds n) :
    castValue column (.string s) = .ok (.int n) := by
  have hblank : isBlank q = false := by rcases hq with rfl | rfl <;> decide
  have htrim : trimChars s.toList = q :: (inner ++ [q]) :=
    hs.trimChars_eq rfl hblank (by rw [← List.cons_append, List.getLast?_concat]) hblank
  have hunwrap : unwrap (.string s) = .string (String.ofList inner) := by
    rw [unwrap, htrim, stripQuotes, if_pos ⟨hq, by rw [List.getLast?_concat]⟩,
      List.dropLast_concat]
  rw [castValue, hunwrap]
  · exact castUnwrapped_eq hcolumn h
  · nofun

theorem castNumber_eq {what : String} {v : Json} (h : v.Holds n) :
    castNumber what v = .ok (.int n) := by
  rw [castNumber, toNumber?_eq h]

/-! ### Every way -/

/-- **Integers are bound exactly, whichever way they come.**  A number parameter that is an integer
of 64 bits, or refers to one, binds that integer.  One that gathers items by references to arrays
binds a list, in which every item that is an integer is that integer at its place.  A column of
numbers, and whatever else wants a number, takes the integer as well, and the column also takes it
in quotes. -/
theorem integer_exact (c : Context) :
    (∀ (n : Int64) (v : Json), v.Holds n →
      Parameter.argument c ⟨.number, v⟩ = .ok (.scalar (.int n)) ∧
      (∀ (path : List Char) (s : String), Cites path s.toList → c.lookup? path = some v →
        Parameter.argument c ⟨.number, .string s⟩ = .ok (.scalar (.int n))) ∧
      (∀ column : Column, column.isNumeric = true → castValue column v = .ok (.int n)) ∧
      ∀ what : String, castNumber what v = .ok (.int n)) ∧
    (∀ (n : Int64) (column : Column) (s : String) (q : Char) (inner : List Char),
      column.isNumeric = true → q = '\x27' ∨ q = '"' → Padded (q :: (inner ++ [q])) s.toList →
      (Json.string (String.ofList inner)).Holds n → castValue column (.string s) = .ok (.int n)) ∧
    ∀ (s : String) (items : List Json), Gathers c s.toList items →
      (∀ ns : List Int64, List.Forall₂ Json.Holds ns items →
        Parameter.argument c ⟨.number, .string s⟩ = .ok (.list (ns.map .int))) ∧
      ∀ a, Parameter.argument c ⟨.number, .string s⟩ = .ok a ↔ ∃ values, a = .list values ∧
        List.Forall₂ (fun v b => normalizeScalar .number v = .ok b ∧
          ∀ n, v.Holds n → b = .int n) items values := by
  refine ⟨fun n v hv => ⟨argument_of_holds hv c, ?_, fun _ hcolumn => castValue_eq hcolumn hv,
    fun _ => castNumber_eq hv⟩, ?_, fun s items h => ⟨fun ns hns => ?_,
      fun a => h.argument_eq_ok_iff⟩⟩
  · intro path s hs hlookup
    exact hs.argument_eq hlookup hv
  · intro n column s q inner hcolumn hq hs h
    exact castValue_quoted hcolumn hq hs h
  · exact h.argument_integers hns

/-- Both ends of the range, and a list of an array and a text. -/
theorem integer_exact_extremes :
    Parameter.argument
        ((Context.empty.insert "a"
          (.array [.integer (-9223372036854775808), .string " +007"])).insert
            "b" (.integer 9223372036854775807))
        ⟨.number, .string "[ $\x7ba\x7d,6]"⟩ =
      .ok (.list [.int (-9223372036854775808), .int 7, .int 6]) ∧
    Parameter.argument
        ((Context.empty.insert "a"
          (.array [.integer (-9223372036854775808), .string " +007"])).insert
            "b" (.integer 9223372036854775807))
        ⟨.number, .string "$\x7bb\x7d "⟩ =
      .ok (.scalar (.int 9223372036854775807)) := by
  have hexact := integer_exact
    ((Context.empty.insert "a"
      (.array [.integer (-9223372036854775808), .string " +007"])).insert
        "b" (.integer 9223372036854775807))
  generalize hc : (Context.empty.insert "a"
    (.array [.integer (-9223372036854775808), .string " +007"])).insert
      "b" (.integer 9223372036854775807) = c at hexact ⊢
  have ha : c.lookup? ['a'] =
      some (.array [.integer (-9223372036854775808), .string " +007"]) := by rw [← hc]; rfl
  have hb : c.lookup? ['b'] = some (.integer 9223372036854775807) := by rw [← hc]; rfl
  have hblank : ∀ x ∈ [' '], isBlank x = true := List.forall_mem_singleton.2 rfl
  have hseven : (Json.string " +007").Holds 7 :=
    .text (.plus 2 (by decide)) (.intro [' '] [] hblank nofun)
  have hsix : (Json.string "6").Holds 6 := .text (.bare 0 (by decide)) (.refl _)
  have hfirst : Cites ['a'] " $\x7ba\x7d".toList :=
    ⟨by decide, by decide, .intro [' '] [] hblank nofun⟩
  have hwhole : Cites ['b'] "$\x7bb\x7d ".toList :=
    ⟨by decide, by decide, .intro [] [' '] nofun hblank⟩
  have hsyms : symbols " $\x7ba\x7d,6".toList =
      [.char ' ', .reference ['a'], .char ',', .char '6'] := by decide +kernel
  have hparts : " $\x7ba\x7d,6".toList.splitOn ',' = [" $\x7ba\x7d".toList, "6".toList] := by
    decide +kernel
  have hsecond : Adds c "6".toList [.string "6"] := by
    have hpieces : splitReferences (trimChars "6".toList) = [.literal ['6']] := by decide +kernel
    have htext : substitute c (trimChars "6".toList) = .ok ['6'] := by
      rw [substitute, hpieces]
      rfl
    exact .text htext
  have hbrackets : Padded ('[' :: (" $\x7ba\x7d,6".toList ++ [']'])) "[ $\x7ba\x7d,6]".toList :=
    .refl _
  have hgathers : Gathers c "[ $\x7ba\x7d,6]".toList
      [[.integer (-9223372036854775808), .string " +007"], [.string "6"]].flatten := by
    refine .list hbrackets ?_ ?_ ?_
    · rw [hsyms]
      simp
    · rw [hparts]
      exact ⟨_, List.mem_cons_self, _, _, hfirst, ha⟩
    · rw [hparts]
      exact .cons (.array hfirst ha) (.cons hsecond .nil)
  exact ⟨(hexact.2.2 _ _ hgathers).1 [-9223372036854775808, 7, 6]
      (.cons .integer (.cons hseven (.cons hsix .nil))),
    (hexact.1 9223372036854775807 _ .integer).2.1 ['b'] _ hwhole hb⟩

end BoundQuery
