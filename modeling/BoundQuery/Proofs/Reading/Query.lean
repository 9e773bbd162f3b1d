import BoundQuery.Proofs.Reading.Field
import Mathlib.Data.List.Permutation

/-!
# Query models that are written and read again

One statement for every entry of a clause, that how it is read and how it is written belong together
(`selectItem_roundTrips` and the like), and from them the one for the whole model
(`queryModel_roundTrips`).

Of each entry three things are to be shown.  What is read is proper: the reader of a record keeps
the data values in its slots canonical (`conditionReader_yields` and the like).  What is written is
canonical: it is a record of canonical fields.  And what is written is read: the fields of the
written object, which stand in the order of their names with the tag among them, fill the slots one
after the other.
-/

namespace BoundQuery

open Source

variable {α : Type}

/-! ### Canonical models -/

/-- Whether the data values of a condition are canonical. -/
def Condition.Canonical : Condition → Prop
  | .test _ _ value values => value.Canonical ∧ ∀ v ∈ values, v.Canonical
  | .membership _ _ values => ∀ v ∈ values, v.Canonical
  | .range _ _ values => ∀ v ∈ values, v.Canonical
  | .subquery _ _ => True
  | .expression _ => True

/-- Whether the data values of a group are canonical. -/
def Group.Canonical (g : Group) : Prop := ∀ c ∈ g.conditions, c.Canonical

/-- Whether the data value of a condition on groups of rows is canonical. -/
def HavingItem.Canonical : HavingItem → Prop
  | .aggregate _ _ _ value => value.Canonical
  | .expression _ => True

/-- Whether the data values of a query model are canonical. -/
def QueryModel.Canonical (m : QueryModel) : Prop :=
  (∀ g ∈ m.filters, g.Canonical) ∧ ∀ i ∈ m.having, i.Canonical

/-! ### SELECT -/

theorem selectItem_roundTrips : RoundTrips readSelectItem SelectItem.toJson fun _ => True where
  proper_of_read _ := trivial
  canonical_write {i} _ := by cases i <;> exact Json.canonical_record (by simp)
  read_write {i} _ := by
    cases i with
    | column name label =>
      have hfields : (SelectItem.column name label).toJson =
          .object ([("alias", .ofOption label), ("column", .string name)] ++
            (tagName, .string "column") :: []) := by cbv
      rw [hfields, readSelectItem, readTagged_tagged _ rfl _ (by simp [tagName])]
      simp [RecordReader.ofFields, ofFields, visitFields, selectReader, upTo, required,
        optionalText_roundTrips.read_write, text_roundTrips.read_write]
    | aggregate function field distinct label =>
      have hfields : (SelectItem.aggregate function field distinct label).toJson =
          .object ([("alias", .ofOption label), ("distinct", .bool distinct),
            ("field", .ofOption field), ("function", .string function.name)] ++
            (tagName, .string "aggregate") :: []) := by cbv
      rw [hfields, readSelectItem, readTagged_tagged _ rfl _ (by simp [tagName])]
      simp [RecordReader.ofFields, ofFields, visitFields, selectReader, upTo, required,
        optionalText_roundTrips.read_write, flag_roundTrips.read_write,
        aggregate_roundTrips.read_write]
    | custom expression label =>
      have hfields : (SelectItem.custom expression label).toJson =
          .object ([("alias", .ofOption label), ("expression", .string expression)] ++
            (tagName, .string "custom") :: []) := by cbv
      rw [hfields, readSelectItem, readTagged_tagged _ rfl _ (by simp [tagName])]
      simp [RecordReader.ofFields, ofFields, visitFields, selectReader, upTo, required,
        optionalText_roundTrips.read_write, text_roundTrips.read_write]

/-! ### WHERE -/

theorem listReader_yields {P : Condition → Prop} {make : String → List Json → Condition}
    (h : ∀ column values, (∀ v ∈ values, v.Canonical) → P (make column values)) :
    (listReader make).Yields P := by
  refine ⟨fun slots => ∀ vs ∈ slots.values, ∀ v ∈ vs, v.Canonical, of_mem_none, ?_, ?_⟩
  · intro slots name s slots' hkept hvisit
    simp only [listReader] at hvisit
    split at hvisit
    case h_3 =>
      obtain ⟨vs, hvs, rfl⟩ := fill_eq_ok hvisit
      exact of_mem_some (values_roundTrips.proper_of_read hvs)
    case h_4 => exact skip_eq_ok hvisit ▸ hkept
    all_goals
      obtain ⟨_, -, rfl⟩ := fill_eq_ok hvisit
      exact hkept
  · intro slots c hkept hfinish
    obtain ⟨column, -, hc⟩ := bind_eq_ok_iff.1 hfinish
    exact Except.ok.inj hc ▸ h _ _ (of_getD hkept (List.forall_mem_nil _))

theorem readTagged_list {type : String} {known : List (String × ConditionKind)} {word : String}
    (kind : ConditionKind) (hkind : known.lookup word = some kind)
    {make : String → List Json → Condition} (hreader : conditionReader kind = listReader make)
    (column : String) {values : List Json} (h : ∀ v ∈ values, v.Canonical) :
    readTagged type known conditionReader
        (ofJson (.object ([("column", .string column)] ++ (tagName, .string word) ::
          [("values", .array values)]))) =
      .ok (make column values) := by
  rw [readTagged_tagged kind hkind _ (by simpa [tagName] using h), hreader]
  simp [RecordReader.ofFields, ofFields, visitFields, listReader, upTo, required,
    text_roundTrips.read_write, values_roundTrips.read_write h]

theorem sqlReader_yields {P : Condition → Prop} {other : String} {make : String → Condition}
    (h : ∀ sql, P (make sql)) : (sqlReader other make).Yields P := by
  refine ⟨fun _ => True, trivial, fun _ _ => trivial, fun _ hfinish => ?_⟩
  obtain ⟨sql, -, hc⟩ := bind_eq_ok_iff.1 hfinish
  exact Except.ok.inj hc ▸ h sql

theorem readTagged_sql {type : String} {known : List (String × ConditionKind)} {word : String}
    (kind : ConditionKind) (hkind : known.lookup word = some kind) {other : String}
    {make : String → Condition} (hreader : conditionReader kind = sqlReader other make)
    (sql : String) :
    readTagged type known conditionReader
        (ofJson (.object ([] ++ (tagName, .string word) :: [("sql", .string sql)]))) =
      .ok (make sql) := by
  rw [readTagged_tagged kind hkind _ (by simp [tagName]), hreader]
  simp [RecordReader.ofFields, ofFields, visitFields, sqlReader, upTo, required,
    text_roundTrips.read_write]

theorem conditionReader_yields (kind : ConditionKind) :
    (conditionReader kind).Yields Condition.Canonical := by
  cases kind with
  | test =>
    refine ⟨fun slots => (∀ v ∈ slots.value, v.Canonical) ∧
      ∀ vs ∈ slots.values, ∀ v ∈ vs, v.Canonical, ⟨of_mem_none, of_mem_none⟩, ?_, ?_⟩
    · rintro slots name s slots' ⟨hvalue, hvalues⟩ hvisit
      simp only [conditionReader] at hvisit
      -- The fields `value` and `values` are the only ones that put data values into a slot.
      split at hvisit
      case h_4 =>
        obtain ⟨v, hv, rfl⟩ := fill_eq_ok hvisit
        exact ⟨of_mem_some (value_roundTrips.proper_of_read hv), hvalues⟩
      case h_5 =>
        obtain ⟨vs, hvs, rfl⟩ := fill_eq_ok hvisit
        exact ⟨hvalue, of_mem_some (values_roundTrips.proper_of_read hvs)⟩
      case h_6 => exact skip_eq_ok hvisit ▸ ⟨hvalue, hvalues⟩
      all_goals
        obtain ⟨_, -, rfl⟩ := fill_eq_ok hvisit
        exact ⟨hvalue, hvalues⟩
    · rintro slots c ⟨hvalue, hvalues⟩ hfinish
      obtain ⟨column, -, hfinish⟩ := bind_eq_ok_iff.1 hfinish
      obtain ⟨operator, -, hc⟩ := bind_eq_ok_iff.1 hfinish
      exact Except.ok.inj hc ▸ ⟨of_getD hvalue .null, of_getD hvalues (List.forall_mem_nil _)⟩
  | membership negated => exact listReader_yields fun _ _ h => h
  | range negated => exact listReader_yields fun _ _ h => h
  | subquery negated => exact sqlReader_yields fun _ => trivial
  | expression => exact sqlReader_yields fun _ => trivial

theorem condition_roundTrips : RoundTrips readCondition Condition.toJson Condition.Canonical where
  proper_of_read h := RecordReader.Yields.readTagged conditionReader_yields h
  canonical_write {c} h := by
    cases c with
    | test column operator value values =>
      exact Json.canonical_record (by simp [h.1, Json.canonical_array_iff.2 h.2])
    | membership | range => exact Json.canonical_record (by simpa [Condition.Canonical] using h)
    | subquery | expression => exact Json.canonical_record (by simp)
  read_write {c} h := by
    -- The names decide where the tag stands: behind `column`, and before all other names.
    cases c with
    | test column operator value values =>
      obtain ⟨hvalue, hvalues⟩ := h
      have hfields : (Condition.test column operator value values).toJson =
          .object ([("column", .string column)] ++ (tagName, .string "column") ::
            [("operator", .string operator.name), ("value", value),
              ("values", .array values)]) := by cbv
      rw [hfields, readCondition, readTagged_tagged _ rfl _
        (by simpa [tagName] using ⟨hvalue, hvalues⟩)]
      simp [RecordReader.ofFields, ofFields, visitFields, conditionReader, upTo, required,
        text_roundTrips.read_write, operator_roundTrips.read_write,
        value_ofJson hvalue, values_roundTrips.read_write hvalues, bind_eq_ok_iff]
    | membership negated column values =>
      have hfields : (Condition.membership negated column values).toJson =
          .object ([("column", .string column)] ++
            (tagName, .string (if negated then "column_not_in" else "column_in")) ::
              [("values", .array values)]) := by cbv
      rw [hfields, readCondition]
      exact readTagged_list (.membership negated) (by cases negated <;> rfl) rfl column h
    | range negated column values =>
      have hfields : (Condition.range negated column values).toJson =
          .object ([("column", .string column)] ++
            (tagName, .string (if negated then "not_between" else "between")) ::
              [("values", .array values)]) := by cbv
      rw [hfields, readCondition]
      exact readTagged_list (.range negated) (by cases negated <;> rfl) rfl column h
    | subquery negated sql =>
      have hfields : (Condition.subquery negated sql).toJson =
          .object ([] ++ (tagName, .string (if negated then "not_exists" else "exists")) ::
            [("sql", .string sql)]) := by cbv
      rw [hfields, readCondition]
      exact readTagged_sql (.subquery negated) (by cases negated <;> rfl) rfl sql
    | expression sql =>
      have hfields : (Condition.expression sql).toJson =
          .object ([] ++ (tagName, .string "expression") :: [("sql", .string sql)]) := by cbv
      rw [hfields, readCondition]
      exact readTagged_sql .expression rfl rfl sql

theorem groupReader_yields : groupReader.Yields Group.Canonical := by
  refine ⟨fun slots => ∀ cs ∈ slots.conditions, ∀ c ∈ cs, c.Canonical, of_mem_none, ?_, ?_⟩
  · intro slots name s slots' hkept hvisit
    simp only [groupReader] at hvisit
    split at hvisit
    · obtain ⟨_, -, rfl⟩ := fill_eq_ok hvisit
      exact hkept
    · obtain ⟨cs, hcs, rfl⟩ := fill_eq_ok hvisit
      exact of_mem_some (condition_roundTrips.items.proper_of_read hcs)
    · exact skip_eq_ok hvisit ▸ hkept
  · intro slots g hkept hfinish
    exact Except.ok.inj hfinish ▸ of_getD hkept (List.forall_mem_nil _)

theorem group_roundTrips : RoundTrips readGroup Group.toJson Group.Canonical where
  proper_of_read h := groupReader_yields.readRecord h
  canonical_write {g} h :=
    Json.canonical_record (by simp [condition_roundTrips.items.canonical_write h])
  read_write {g} h := by
    have hfields : g.toJson =
        .object [("conditions", .array (g.conditions.map Condition.toJson)),
          ("filterType", .string g.connector.name)] := by cbv
    rw [hfields]
    change groupReader.ofFields _ none = _
    simp [RecordReader.ofFields, ofFields, visitFields, groupReader, upTo,
      condition_roundTrips.items.read_write h, connector_roundTrips.read_write]

/-! ### GROUP BY -/

theorem textReader_yields {P : α → Prop} {field : String} {make : String → α}
    (h : ∀ text, P (make text)) : (textReader field make).Yields P := by
  refine ⟨fun _ => True, trivial, fun _ _ => trivial, fun _ hfinish => ?_⟩
  obtain ⟨text, -, ha⟩ := map_eq_ok_iff.1 hfinish
  exact ha ▸ h text

theorem readTagged_text {κ : Type} {type : String} {known : List (String × κ)}
    {reader : κ → RecordReader α} {word : String} (kind : κ)
    (hkind : known.lookup word = some kind) {field : String} (hfield : field ≠ tagName)
    {make : String → α} (hreader : reader kind = textReader field make) (text : String) :
    readTagged type known reader
        (ofJson (.object ([(field, .string text)] ++ (tagName, .string word) :: []))) =
      .ok (make text) := by
  rw [readTagged_tagged kind hkind _ (by simpa using hfield), hreader]
  simp [RecordReader.ofFields, ofFields, visitFields, textReader, upTo, required,
    text_roundTrips.read_write, Except.map]

theorem groupItem_roundTrips : RoundTrips readGroupItem GroupItem.toJson fun _ => True where
  proper_of_read _ := trivial
  canonical_write {i} _ := by cases i <;> exact Json.canonical_record (by simp)
  read_write {i} _ := by
    cases i with
    | column name =>
      have hfields : (GroupItem.column name).toJson =
          .object ([("column", .string name)] ++ (tagName, .string "column") :: []) := by cbv
      rw [hfields, readGroupItem]
      exact readTagged_text PlainKind.column rfl (by decide) (by rfl) name
    | expression sql =>
      have hfields : (GroupItem.expression sql).toJson =
          .object ([("expression", .string sql)] ++ (tagName, .string "expression") :: []) := by
        cbv
      rw [hfields, readGroupItem]
      exact readTagged_text PlainKind.expression rfl (by decide) (by rfl) sql

/-! ### HAVING -/

theorem havingReader_yields (kind : HavingKind) :
    (havingReader kind).Yields HavingItem.Canonical := by
  cases kind with
  | aggregate =>
    refine ⟨fun slots => ∀ v ∈ slots.value, v.Canonical, of_mem_none, ?_, ?_⟩
    · intro slots name s slots' hvalue hvisit
      simp only [havingReader] at hvisit
      split at hvisit
      case h_6 =>
        obtain ⟨v, hv, rfl⟩ := fill_eq_ok hvisit
        exact of_mem_some (value_roundTrips.proper_of_read hv)
      case h_7 => exact skip_eq_ok hvisit ▸ hvalue
      all_goals
        obtain ⟨_, -, rfl⟩ := fill_eq_ok hvisit
        exact hvalue
    · intro slots i hvalue hfinish
      obtain ⟨function, -, hfinish⟩ := bind_eq_ok_iff.1 hfinish
      obtain ⟨operator, -, hi⟩ := bind_eq_ok_iff.1 hfinish
      exact Except.ok.inj hi ▸ of_getD hvalue .null
  | expression => exact textReader_yields fun _ => trivial

theorem havingItem_roundTrips : RoundTrips readHavingItem HavingItem.toJson HavingItem.Canonical
    where
  proper_of_read h := RecordReader.Yields.readTagged havingReader_yields h
  canonical_write {i} h := by
    cases i with
    | aggregate function field operator value =>
      exact Json.canonical_record (by simpa [HavingItem.Canonical] using h)
    | expression sql => exact Json.canonical_record (by simp)
  read_write {i} h := by
    cases i with
    | aggregate function field operator value =>
      replace h : value.Canonical := h
      have hfields : (HavingItem.aggregate function field operator value).toJson =
          .object ([("field", .ofOption field), ("function", .string function.name)] ++
            (tagName, .string "aggregate") ::
              [("operator", .string operator.name), ("value", value)]) := by cbv
      rw [hfields, readHavingItem, readTagged_tagged _ rfl _ (by simpa [tagName] using h)]
      simp [RecordReader.ofFields, ofFields, visitFields, havingReader, upTo, required,
        optionalText_roundTrips.read_write, aggregate_roundTrips.read_write,
        operator_roundTrips.read_write, value_ofJson h, bind_eq_ok_iff]
    | expression sql =>
      have hfields : (HavingItem.expression sql).toJson =
          .object ([("expression", .string sql)] ++ (tagName, .string "expression") :: []) := by
        cbv
      rw [hfields, readHavingItem]
      exact readTagged_text HavingKind.expression rfl (by decide) (by rfl) sql

/-! ### ORDER BY -/

theorem optionalDirection_roundTrips :
    RoundTrips readOptionalDirection (fun d => .ofOption (d.map Direction.name)) fun _ => True where
  proper_of_read _ := trivial
  canonical_write _ := Json.canonical_ofOption _
  read_write {d} _ := by
    cases d with
    | none => rfl
    | some d =>
      have hd := direction_roundTrips.read_write (a := d) trivial
      simp only [ofJson] at hd
      simp only [Option.map_some, Json.ofOption, ofJson, readOptionalDirection, hd, Except.map]

theorem orderItem_roundTrips : RoundTrips readOrderItem OrderItem.toJson fun _ => True where
  proper_of_read _ := trivial
  canonical_write {i} _ := by cases i <;> exact Json.canonical_record (by simp)
  read_write {i} _ := by
    cases i with
    | column name direction =>
      have hfields : (OrderItem.column name direction).toJson =
          .object ([("column", .string name), ("direction", .string direction.name)] ++
            (tagName, .string "column") :: []) := by cbv
      rw [hfields, readOrderItem, readTagged_tagged _ rfl _ (by simp [tagName])]
      simp [RecordReader.ofFields, ofFields, visitFields, orderItemReader, orderReader, upTo,
        required, text_roundTrips.read_write, direction_roundTrips.read_write, Except.map]
    | expression sql direction =>
      have hfields : (OrderItem.expression sql direction).toJson =
          .object ([("direction", .ofOption (direction.map Direction.name)),
            ("expression", .string sql)] ++ (tagName, .string "expression") :: []) := by cbv
      rw [hfields, readOrderItem, readTagged_tagged _ rfl _ (by simp [tagName])]
      simp [RecordReader.ofFields, ofFields, visitFields, orderItemReader, orderReader, upTo,
        required, text_roundTrips.read_write, optionalDirection_roundTrips.read_write]

/-! ### The model -/

theorem queryReader_yields : queryReader.Yields QueryModel.Canonical := by
  refine ⟨fun slots => (∀ gs ∈ slots.filters, ∀ g ∈ gs, g.Canonical) ∧
    ∀ is ∈ slots.having, ∀ i ∈ is, i.Canonical, ⟨of_mem_none, of_mem_none⟩, ?_, ?_⟩
  · rintro slots name s slots' ⟨hfilters, hhaving⟩ hvisit
    simp only [queryReader] at hvisit
    split at hvisit
    -- The groups go by two names.
    case h_2 | h_3 =>
      obtain ⟨gs, hgs, rfl⟩ := fill_eq_ok hvisit
      exact ⟨of_mem_some (group_roundTrips.items.proper_of_read hgs), hhaving⟩
    case h_5 =>
      obtain ⟨is, his, rfl⟩ := fill_eq_ok hvisit
      exact ⟨hfilters, of_mem_some (havingItem_roundTrips.items.proper_of_read his)⟩
    case h_8 => exact skip_eq_ok hvisit ▸ ⟨hfilters, hhaving⟩
    all_goals
      obtain ⟨_, -, rfl⟩ := fill_eq_ok hvisit
      exact ⟨hfilters, hhaving⟩
  · rintro slots m ⟨hfilters, hhaving⟩ hfinish
    exact Except.ok.inj hfinish ▸
      ⟨of_getD hfilters (List.forall_mem_nil _), of_getD hhaving (List.forall_mem_nil _)⟩

theorem queryModel_roundTrips :
    RoundTrips readQueryModel QueryModel.toJson QueryModel.Canonical where
  proper_of_read h := queryReader_yields.readRecord h
  canonical_write {m} h :=
    Json.canonical_record (by
      simp only [List.forall_mem_cons]
      exact ⟨selectItem_roundTrips.items.canonical_write fun _ _ => trivial,
        group_roundTrips.items.canonical_write h.1,
        groupItem_roundTrips.items.canonical_write fun _ _ => trivial,
        havingItem_roundTrips.items.canonical_write h.2,
        orderItem_roundTrips.items.canonical_write fun _ _ => trivial,
        limit_roundTrips.canonical_write trivial, List.forall_mem_nil _⟩)
  read_write {m} h := by
    obtain ⟨hfilters, hhaving⟩ := h
    have hfields : m.toJson =
        .object [("filters", .array (m.filters.map Group.toJson)),
          ("groupBy", .array (m.groupBy.map GroupItem.toJson)),
          ("having", .array (m.having.map HavingItem.toJson)), ("limit", limitJson m.limit),
          ("orderBy", .array (m.orderBy.map OrderItem.toJson)),
          ("select", .array (m.select.map SelectItem.toJson))] := by cbv
    rw [hfields]
    change queryReader.ofFields _ none = _
    simp [RecordReader.ofFields, ofFields, visitFields, queryReader, upTo,
      group_roundTrips.items.read_write hfilters, groupItem_roundTrips.items.read_write,
      havingItem_roundTrips.items.read_write hhaving, limit_roundTrips.read_write,
      orderItem_roundTrips.items.read_write, selectItem_roundTrips.items.read_write]

end BoundQuery
