import BoundQuery.Clause.Scope
import BoundQuery.Proofs.Except

/-!
# Names in quotes are read back

A name goes into a query between quotes, with every quote inside it written twice.  A reader of
identifiers goes by the rule that two quotes stand for one and that a single one ends the name, so
no name can end before the quote that was put behind it.

* `Dialect.identifier?` : the reader of one identifier, with what stands behind it;
* `Dialect.reference?` : the reader of identifiers with points between them;
* `Dialect.identifier?_quote` : a name in quotes is read back, and nothing behind it is touched,
  unless that begins with a quote;
* `Scope.names_readBack` : **names and the parts of table names are read back as they were given**,
  so different ones never become the same text.
-/

namespace BoundQuery

open Text

namespace Dialect

/-! ### Readers -/

/-- The rest of a name whose opening quote has been passed, and what stands behind its closing one.
Two quotes stand for one, and a single one closes the name. -/
def quotedBody? (q : Char) : List Char → Option (List Char × List Char)
  | [] => none
  | [c] => if c = q then some ([], []) else none
  | c :: d :: rest =>
    if c = q then
      if d = q then (quotedBody? q rest).map fun (name, after) => (q :: name, after)
      else some ([], d :: rest)
    else (quotedBody? q (d :: rest)).map fun (name, after) => (c :: name, after)

/-- The name in quotes at the start of a text, and what stands behind it. -/
def identifier? (d : Dialect) : List Char → Option (List Char × List Char)
  | [] => none
  | c :: rest => if c = d.quoteChar then quotedBody? d.quoteChar rest else none

theorem quotedBody?_length {q : Char} {cs name after : List Char}
    (h : quotedBody? q cs = some (name, after)) : after.length < cs.length := by
  fun_induction quotedBody? q cs generalizing name with
  | case1 => cases h
  | case2 => cases h; exact Nat.zero_lt_one
  | case3 => cases h
  | case4 rest ih =>
    obtain ⟨⟨_, _⟩, hbody, hname⟩ := Option.map_eq_some_iff.1 h
    cases hname
    exact Nat.lt_succ_of_lt (Nat.lt_succ_of_lt (ih hbody))
  | case5 => cases h; exact Nat.lt_succ_self _
  | case6 c d rest _ ih =>
    obtain ⟨⟨_, _⟩, hbody, hname⟩ := Option.map_eq_some_iff.1 h
    cases hname
    exact Nat.lt_succ_of_lt (ih hbody)

theorem identifier?_length {d : Dialect} {cs name after : List Char}
    (h : d.identifier? cs = some (name, after)) : after.length < cs.length := by
  cases cs with
  | nil => cases h
  | cons c rest =>
    rw [identifier?] at h
    split at h
    · exact Nat.lt_succ_of_lt (quotedBody?_length h)
    · cases h

/-- The names in quotes of which a text consists, with points between them. -/
def reference? (d : Dialect) (cs : List Char) : Option (List String) :=
  match _h : d.identifier? cs with
  | some (name, []) => some [String.ofList name]
  | some (name, '.' :: rest) => (reference? d rest).map (String.ofList name :: ·)
  | _ => none
termination_by cs.length
decreasing_by
  have := identifier?_length _h
  rw [List.length_cons] at this
  omega

theorem reference?_last {d : Dialect} {cs name : List Char}
    (h : d.identifier? cs = some (name, [])) : d.reference? cs = some [String.ofList name] := by
  unfold reference?
  split <;> simp_all

theorem reference?_point {d : Dialect} {cs name rest : List Char}
    (h : d.identifier? cs = some (name, '.' :: rest)) :
    d.reference? cs = (d.reference? rest).map (String.ofList name :: ·) := by
  rw [reference?]
  split <;> simp_all

/-! ### What is written is read back -/

theorem quotedBody?_doubled {q : Char} {rest : List Char} (h : rest.head? ≠ some q)
    (name : List Char) : quotedBody? q (doubled q name ++ q :: rest) = some (name, rest) := by
  induction name with
  | nil =>
    cases rest with
    | nil => simp [doubled, quotedBody?]
    | cons d rest =>
      have hd : d ≠ q := fun hd => h (congrArg some hd)
      simp [doubled, quotedBody?, hd]
  | cons c name ih =>
    by_cases hc : c = q
    · have hdoubled : doubled q (c :: name) = q :: q :: doubled q name := by
        rw [doubled, List.flatMap_cons, if_pos hc]
        rfl
      rw [hdoubled, List.cons_append, List.cons_append, quotedBody?, if_pos rfl, if_pos rfl, ih, hc]
      rfl
    · have hdoubled : doubled q (c :: name) = c :: doubled q name := by
        rw [doubled, List.flatMap_cons, if_neg hc]
        rfl
      -- The closing quote at least stands behind the character.
      obtain ⟨d, more, hmore⟩ : ∃ d more, doubled q name ++ q :: rest = d :: more :=
        List.exists_cons_of_ne_nil (by simp)
      rw [hdoubled, List.cons_append, hmore, quotedBody?, if_neg hc, ← hmore, ih]
      rfl

/-- A name in quotes is read back, with what stands behind it. -/
theorem identifier?_quote (d : Dialect) (name : String) (rest : List Char)
    (h : rest.head? ≠ some d.quoteChar) :
    d.identifier? ((d.quote name).toList ++ rest) = some (name.toList, rest) := by
  have hquote : (d.quote name).toList ++ rest =
      d.quoteChar :: (doubled d.quoteChar name.toList ++ d.quoteChar :: rest) := by
    simp [quote]
  rw [hquote, identifier?, if_pos rfl, quotedBody?_doubled h]

theorem quoteChar_ne_point (d : Dialect) : '.' ≠ d.quoteChar := by
  cases d <;> decide

/-- Names in quotes with points between them are read back. -/
theorem reference?_intercalate (d : Dialect) {names : List String} (h : names ≠ []) :
    d.reference? (".".intercalate (names.map d.quote)).toList = some names := by
  induction names with
  | nil => exact absurd rfl h
  | cons name names ih =>
    cases names with
    | nil =>
      have hread := d.identifier?_quote name [] nofun
      rw [List.append_nil] at hread
      rw [List.map_singleton, String.intercalate_singleton, reference?_last hread,
        String.ofList_toList]
    | cons next names =>
      rw [List.map_cons, List.map_cons, String.intercalate_cons_cons, ← List.map_cons,
        String.toList_append, String.toList_append, List.append_assoc]
      have hread := d.identifier?_quote name
        ('.' :: (".".intercalate ((next :: names).map d.quote)).toList)
        (fun hhead => d.quoteChar_ne_point (Option.some.inj hhead))
      rw [show ".".toList = ['.'] from rfl, List.singleton_append, reference?_point hread,
        ih (List.cons_ne_nil _ _), String.ofList_toList]
      rfl

end Dialect

namespace Scope

variable {s : Scope}

theorem tableParts_eq (table : String) :
    tableParts table = (table.toList.splitOn '.').map fun part => trim (String.ofList part) := by
  simp [tableParts, trim]

theorem eq_of_tableRef {table ref : String} (h : s.tableRef table = .ok ref) :
    ref = ".".intercalate ((tableParts table).map s.quote) := by
  rw [tableRef] at h
  split at h
  · cases h
  · exact (Except.ok.inj h).symm

/-- The reference to a table is read back as the parts of its name. -/
theorem reference?_tableRef {table ref : String} (h : s.tableRef table = .ok ref) :
    s.dialect.reference? ref.toList = some (tableParts table) := by
  rw [eq_of_tableRef h]
  refine s.dialect.reference?_intercalate ?_
  simp [tableParts, List.splitOn_ne_nil]

/-- **Names are read back as they were given.**  Whatever stands behind a name in quotes, unless it
begins with a quote itself, the reader of identifiers ends at the closing quote and has the name;
the reference to a table is read as the parts of the name between points without the blanks around
them; and two tables have one reference exactly if these parts are the same. -/
theorem names_readBack (s : Scope) :
    let parts := fun table : String =>
      (table.toList.splitOn '.').map fun part => trim (String.ofList part)
    (∀ (name : String) (rest : List Char), rest.head? ≠ some s.dialect.quoteChar →
      s.dialect.identifier? ((s.quote name).toList ++ rest) = some (name.toList, rest)) ∧
    (∀ table ref, s.tableRef table = .ok ref →
      s.dialect.reference? ref.toList = some (parts table)) ∧
    ∀ table table' ref ref', s.tableRef table = .ok ref → s.tableRef table' = .ok ref' →
      (ref = ref' ↔ parts table = parts table') := by
  intro parts
  have hparts : tableParts = parts := funext tableParts_eq
  rw [← hparts]
  refine ⟨fun name rest => s.dialect.identifier?_quote name rest, fun table ref => reference?_tableRef,
    fun table table' ref ref' href href' => ⟨?_, ?_⟩⟩
  · rintro rfl
    exact Option.some.inj ((reference?_tableRef href).symm.trans (reference?_tableRef href'))
  · intro hsame
    rw [eq_of_tableRef href, eq_of_tableRef href', hsame]

/-- A name between quotes of its own, and a table whose parts hold quotes and blanks. -/
theorem names_readBack_quotes :
    Dialect.mysql.identifier? (((Scope.mk .empty .mysql).quote "\x60a\x60").toList ++ ['.', '*']) =
      some ("\x60a\x60".toList, ['.', '*']) ∧
    (Scope.mk .empty .postgres).tableRef " sales . my \"t\" " =
      .ok "\"sales\".\"my \"\"t\"\"\"" ∧
    Dialect.postgres.reference? "\"sales\".\"my \"\"t\"\"\"".toList =
      some ["sales", "my \"t\""] := by
  have htable : (Scope.mk .empty .postgres).tableRef " sales . my \"t\" " =
      .ok "\"sales\".\"my \"\"t\"\"\"" := toOption_eq_some_iff.1 (by decide +kernel)
  have hname := (names_readBack ⟨.empty, .mysql⟩).1 "\x60a\x60" ['.', '*'] (by decide)
  have hparts := (names_readBack ⟨.empty, .postgres⟩).2.1 _ _ htable
  exact ⟨hname, htable, hparts.trans (by decide +kernel)⟩

end Scope

end BoundQuery
