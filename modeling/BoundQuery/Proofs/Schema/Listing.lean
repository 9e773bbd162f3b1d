import BoundQuery.Proofs.Clause.Valid
import BoundQuery.Proofs.Text.Upper
import BoundQuery.Schema.Document

/-!
# One table from every kind of listing

Names and types come as a list, as the rows of a catalog, as options to choose from, or in a
document.  Each is read in its own way, and what is read is the same.

* `Column.flags` : what the type of a column allows;
* `baseType_eq` : the flags depend on what stands in front of the first parenthesis of a type, in
  upper case and without blanks around it;
* `Document.Lists` : the definitions that a document has for a table, under its name or under one
  in another case;
* `Table.listings_agree` : **all listings of one list of names and types give one table, where the
  last entry with a name counts, and the flags of a column are those of its type, however it is
  written.**
-/

namespace BoundQuery

open Text

/-! ### The flags of a column -/

namespace Column

/-- Whether a column holds numbers, dates or texts. -/
def flags (c : Column) : List Bool := [c.isNumeric, c.isDate, c.isString]

@[simp] theorem name_typed (name type : String) : (typed name type).name = name := rfl

/-- What the type of a column allows depends on its base type. -/
theorem flags_typed (name type : String) :
    (typed name type).flags =
      [numericTypes, dateTypes, stringTypes].map (·.contains (baseType (upper (trim type)))) := by
  simp only [flags, typed, List.map_cons, List.map_nil]

/-- No base type is in two of the lists. -/
theorem flags_count_le_one (name type : String) : (typed name type).flags.count true ≤ 1 := by
  rw [flags_typed]
  generalize baseType (upper (trim type)) = base
  have hnumeric : ∀ b ∈ numericTypes, b ∉ dateTypes ∧ b ∉ stringTypes := by decide
  have hdate : ∀ b ∈ dateTypes, b ∉ stringTypes := by decide
  simp only [List.map_cons, List.map_nil, List.count_cons, List.count_nil, List.contains_eq_mem,
    beq_true]
  grind

/-- Blanks at the two ends do not reach beyond a parenthesis. -/
theorem exists_takeWhile_padded {front back : List Char} (hfront : Blank front) (hback : Blank back)
    (cs : List Char) :
    ∃ rest, Blank rest ∧ (front ++ cs ++ back).takeWhile (· ≠ '(') =
      front ++ cs.takeWhile (· ≠ '(') ++ rest := by
  have hpass : ∀ {cs : List Char}, Blank cs → ∀ c ∈ cs, decide (c ≠ '(') = true :=
    fun hcs c hc => of_isBlank (p := fun c => c ≠ '(') (by decide +kernel) (hcs c hc)
  rw [List.append_assoc, List.takeWhile_append_of_pos (hpass hfront), List.takeWhile_append]
  split
  next hall =>
    have hcs : cs.takeWhile (· ≠ '(') = cs := (List.takeWhile_prefix _).eq_of_length hall
    refine ⟨back, hback, ?_⟩
    rw [hcs, List.takeWhile_eq_self_iff.2 (hpass hback), List.append_assoc]
  next => exact ⟨[], List.forall_mem_nil _, by rw [List.append_nil]⟩

/-- The base type is what stands in front of the first parenthesis of the type as it is written. -/
theorem baseType_eq (type : String) :
    baseType (upper (trim type)) =
      String.ofList (trimChars ((type.toList.takeWhile (· ≠ '(')).flatMap upperChar)) := by
  obtain ⟨front, back, hends, hsplit⟩ := exists_trimChars type.toList
  have hfront : Blank front := fun c hc => hends c (List.mem_append_left _ hc)
  have hback : Blank back := fun c hc => hends c (List.mem_append_right _ hc)
  obtain ⟨rest, hrest, htake⟩ := exists_takeWhile_padded hfront hback (trimChars type.toList)
  rw [hsplit, htake, List.flatMap_append, List.flatMap_append, upperChars_of_blank hfront,
    upperChars_of_blank hrest, trimChars_padded hfront hrest, baseType, upper,
    String.toList_ofList, toList_trim, takeWhile_upperChars]

/-- What follows a parenthesis does not count. -/
theorem flags_append_open (name type suffix : String) :
    (typed name (type ++ "(" ++ suffix)).flags = (typed name type).flags := by
  have hopen : "(".toList = ['('] := rfl
  have htake : (type ++ "(" ++ suffix).toList.takeWhile (· ≠ '(') =
      type.toList.takeWhile (· ≠ '(') := by
    rw [String.toList_append, String.toList_append, hopen, List.append_assoc,
      List.takeWhile_append]
    split
    next hall =>
      rw [(List.takeWhile_prefix _).eq_of_length hall]
      exact List.append_nil _
    next => rfl
  rw [flags_typed, flags_typed, baseType_eq, baseType_eq, htake]

theorem typed_trim (name type : String) : typed name (trim type) = typed name type := by
  rw [typed, trim_trim, ← typed]

/-- The case of the ASCII letters of a type makes no difference. -/
theorem typed_lowerAscii (name type : String) :
    typed name (lowerAscii type) = typed name type := by
  rw [typed, trim_lowerAscii, upper_lowerAscii, ← typed]

/-- Blanks around a type make no difference. -/
theorem typed_padded {name front type back : String} (hfront : Blank front.toList)
    (hback : Blank back.toList) : typed name (front ++ type ++ back) = typed name type := by
  rw [← typed_trim, trim, String.toList_append, String.toList_append, trimChars_padded hfront hback,
    ← trim, typed_trim]

end Column

/-! ### Documents -/

/-- Whether a document has these definitions for a table. -/
inductive Document.Lists (d : Document) (name : String) (definitions : List ColumnDefinition) :
    Prop
  /-- The name of the table is one of the document. -/
  | exact (h : d.tables.get? name = some definitions)
  /-- It is not, and these are the definitions of the first table whose name differs in case only. -/
  | alike {front back : Keyed (List ColumnDefinition)} {other : String}
    (hmissing : d.tables.get? name = none)
    (hsplit : d.tables = front ++ (other, definitions) :: back)
    (hother : lowerAscii other = lowerAscii name)
    (hfirst : ∀ e ∈ front, lowerAscii e.1 ≠ lowerAscii name)

theorem Document.table_of_lists {d : Document} {name : String}
    {definitions : List ColumnDefinition} (h : d.Lists name definitions) :
    d.table name = .ok (.ofColumns (definitions.map fun c => (c.name, c.type))) := by
  have hfound : d.definitions? name = some definitions := by
    unfold definitions?
    cases h with
    | exact h => rw [h]
    | alike hmissing hsplit hother hfirst =>
      rw [hmissing, hsplit, List.find?_append, List.find?_eq_none.2 (by simpa using hfirst),
        List.find?_cons_of_pos (by simpa using hother)]
      rfl
  rw [table, hfound]

/-! ### Listings -/

namespace Table

theorem get?_ofColumns (columns : List (String × String)) (name : String) :
    (ofColumns columns).get? name =
      (columns.reverse.find? fun e => e.1 = name).map fun e => Column.typed name e.2 := by
  rw [ofColumns, ofList, get?, Keyed.get?_ofList, List.map_map, ← List.map_reverse, List.find?_map,
    Option.map_map]
  refine Option.map_congr fun e he => ?_
  have hname := List.find?_some he
  simp only [Function.comp_apply, Column.name_typed] at hname ⊢
  rw [of_decide_eq_true hname]

/-- A catalog has every type but that of the row named `*`. -/
theorem ofCatalog_eq_ofColumns {columns : List (String × String)} (h : ∀ e ∈ columns, e.1 ≠ "*") :
    ofCatalog (columns.map fun e => ⟨e.1, some e.2⟩) = ofColumns columns := by
  rw [ofCatalog, ofColumns, List.map_map]
  exact congrArg ofList (List.map_congr_left fun e he => if_neg (h e he))

/-- Options are skipped only if their type is blank. -/
theorem ofOptions_eq_ofColumns {columns : List (String × String)}
    (h : ∀ e ∈ columns, ¬ Blank e.2.toList) :
    ofOptions (columns.map fun e => ⟨.string e.1, some e.2⟩) = ofColumns columns := by
  rw [ofOptions, ofColumns, List.filterMap_map, ← List.filterMap_eq_map]
  refine congrArg ofList (List.filterMap_congr fun e he => ?_)
  simp only [Function.comp_apply, ColumnOption.column?, Option.getD_some,
    nonBlank_of_not_blank (h e he), Option.map_some, Column.typed_trim]

/-- **All listings of one list of names and types give one table.**  In it the last entry with a
name counts.  A column has one flag at most, and the flags are those of its type whatever the case
of its ASCII letters, the blanks around it and what is added to it in parentheses. -/
theorem listings_agree :
    (∀ columns : List (String × String),
      ((∀ e ∈ columns, e.1 ≠ "*") →
        ofCatalog (columns.map fun e => ⟨e.1, some e.2⟩) = ofColumns columns) ∧
      ((∀ e ∈ columns, ¬ Blank e.2.toList) →
        ofOptions (columns.map fun e => ⟨.string e.1, some e.2⟩) = ofColumns columns) ∧
      (∀ (d : Document) (table : String),
        d.Lists table (columns.map fun e => ⟨e.1, e.2⟩) →
          d.table table = .ok (ofColumns columns)) ∧
      ∀ name, (ofColumns columns).get? name =
        (columns.reverse.find? fun e => e.1 = name).map fun e => Column.typed name e.2) ∧
    ∀ name type : String,
      (Column.typed name type).flags.count true ≤ 1 ∧
      (Column.untyped name).flags.count true = 0 ∧
      (∀ other, lowerAscii other = lowerAscii type →
        Column.typed name other = Column.typed name type) ∧
      (∀ front back : String, Blank front.toList → Blank back.toList →
        Column.typed name (front ++ type ++ back) = Column.typed name type) ∧
      ∀ suffix : String,
        (Column.typed name (type ++ "(" ++ suffix ++ ")")).flags =
          (Column.typed name type).flags := by
  refine ⟨fun columns => ⟨ofCatalog_eq_ofColumns, ofOptions_eq_ofColumns, fun d table hlists => ?_,
    get?_ofColumns columns⟩, fun name type => ⟨Column.flags_count_le_one name type, rfl,
    fun other hcase => ?_, fun front back hfront hback => ?_, fun suffix => ?_⟩⟩
  · rw [Document.table_of_lists hlists, List.map_map]
    exact congrArg (fun columns => Except.ok (ofColumns columns)) (List.map_id columns)
  · rw [← Column.typed_lowerAscii, hcase, Column.typed_lowerAscii]
  · exact Column.typed_padded hfront hback
  · rw [String.append_assoc, Column.flags_append_open]

/-- A listing with a name that is given twice, and with types that are written in several ways. -/
def orderColumns : List (String × String) :=
  [("ID", "INTEGER"), ("SKU", " varchar (9) "), ("ID", "decimal(10, 2)")]

theorem listings_agree_orders :
    ofCatalog (orderColumns.map fun e => ⟨e.1, some e.2⟩) = ofColumns orderColumns ∧
      ofOptions (orderColumns.map fun e => ⟨.string e.1, some e.2⟩) = ofColumns orderColumns ∧
      Document.table ⟨[("ORDERS", orderColumns.map fun e => ⟨e.1, e.2⟩)]⟩ "orders" =
        .ok (ofColumns orderColumns) ∧
      (ofColumns orderColumns).get? "ID" = some (Column.typed "ID" "decimal(10, 2)") ∧
      Column.typed "ID" "Decimal" = Column.typed "ID" "DECIMAL" ∧
      Column.typed "ID" (" " ++ "DECIMAL" ++ "\t") = Column.typed "ID" "DECIMAL" := by
  obtain ⟨hcatalog, hoptions, hdocument, hlast⟩ := listings_agree.1 orderColumns
  obtain ⟨-, -, hcase, hpadded, -⟩ := listings_agree.2 "ID" "DECIMAL"
  have hlists : Document.Lists ⟨[("ORDERS", orderColumns.map fun e => ⟨e.1, e.2⟩)]⟩ "orders"
      (orderColumns.map fun e => ⟨e.1, e.2⟩) :=
    .alike (by decide) (List.nil_append [_]).symm (lowerAscii_eq_iff.2 (by decide))
      (List.forall_mem_nil _)
  have hblank : ∀ e ∈ orderColumns, ¬ Blank e.2.toList := by
    simp only [← trimChars_eq_nil_iff]
    decide +kernel
  refine ⟨hcatalog (by decide), hoptions hblank, hdocument _ _ hlists, ?_,
    hcase "Decimal" (lowerAscii_eq_iff.2 (by decide)), hpadded " " "\t" ?_ ?_⟩
  · have hfound : orderColumns.reverse.find? (fun e => e.1 = "ID") =
        some ("ID", "decimal(10, 2)") := by decide +kernel
    rw [hlast, hfound, Option.map_some]
  · exact trimChars_eq_nil_iff.1 (by decide +kernel)
  · exact trimChars_eq_nil_iff.1 (by decide +kernel)

end Table

end BoundQuery
