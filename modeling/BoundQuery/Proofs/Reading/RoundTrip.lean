import BoundQuery.Proofs.Reading.Query
import BoundQuery.Reading.Step
import BoundQuery.Writing.Step

/-!
# Models that are written and read again

What is written of a query model, of a step and of run settings is read again as it is, and whatever
can be read, in whichever of its forms, is written in one form, which stands for the same.

The data values inside a model are all that can fail to come back, for the type `Json` also has
values that no text has.  A model is **canonical** if its data values are (`QueryModel.Canonical`,
`Step.Canonical`), and what is read always is.

* `parameter_roundTrips`, `step_roundTrips`, `runSettings_roundTrips`: the parts that are no query;
* `models_roundTrip`: **all models and all data values**.
-/

namespace BoundQuery

open Source

/-! ### Steps -/

/-- Whether the data value of a parameter is canonical. -/
def Parameter.Canonical (p : Parameter) : Prop := p.value.Canonical

/-- Whether the data values of a step are canonical. -/
def Step.Canonical (s : Step) : Prop := ∀ p ∈ s.parameters, p.Canonical

theorem parameterReader_yields : (parameterReader .value).Yields Parameter.Canonical := by
  refine ⟨fun slots => ∀ v ∈ slots.value, v.Canonical, of_mem_none, ?_, ?_⟩
  · intro slots name s slots' hvalue hvisit
    simp only [parameterReader] at hvisit
    split at hvisit
    · obtain ⟨_, -, rfl⟩ := fill_eq_ok hvisit
      exact hvalue
    · obtain ⟨v, hv, rfl⟩ := fill_eq_ok hvisit
      exact of_mem_some (value_roundTrips.proper_of_read hv)
    · exact skip_eq_ok hvisit ▸ hvalue
  · intro slots p hvalue hfinish
    exact Except.ok.inj hfinish ▸ of_getD hvalue .null

theorem parameterKind_roundTrips :
    RoundTrips (readParameterKind .value) (fun k => .string k.name) fun _ => True where
  proper_of_read _ := trivial
  canonical_write _ := .string _
  read_write {k} _ := by cases k <;> rfl

theorem parameter_roundTrips :
    RoundTrips (readParameter .value) Parameter.toJson Parameter.Canonical where
  proper_of_read h := parameterReader_yields.readRecord h
  canonical_write {p} h := Json.canonical_record (by simpa [Parameter.Canonical] using h)
  read_write {p} h := by
    have hfields : p.toJson =
        .object [("type", .string p.kind.name), ("value", p.value)] := by cbv
    rw [hfields]
    change (parameterReader .value).ofFields _ none = _
    simp [RecordReader.ofFields, ofFields, visitFields, parameterReader, upTo,
      parameterKind_roundTrips.read_write, value_ofJson h]

theorem stepReader_yields : (stepReader .value).Yields Step.Canonical := by
  refine ⟨fun slots => ∀ ps ∈ slots.parameters, ∀ p ∈ ps, p.Canonical, of_mem_none, ?_, ?_⟩
  · intro slots name s slots' hkept hvisit
    simp only [stepReader] at hvisit
    split at hvisit
    -- The parameters go by two names.
    case h_2 | h_3 =>
      obtain ⟨ps, hps, rfl⟩ := fill_eq_ok hvisit
      exact of_mem_some (parameter_roundTrips.items.proper_of_read hps)
    case h_5 => exact skip_eq_ok hvisit ▸ hkept
    all_goals
      obtain ⟨_, -, rfl⟩ := fill_eq_ok hvisit
      exact hkept
  · intro slots step hkept hfinish
    obtain ⟨sql, -, hs⟩ := bind_eq_ok_iff.1 hfinish
    exact Except.ok.inj hs ▸ of_getD hkept (List.forall_mem_nil _)

theorem step_roundTrips : RoundTrips (readStep .value) Step.toJson Step.Canonical where
  proper_of_read h := stepReader_yields.readRecord h
  canonical_write {step} h := by
    obtain ⟨sql, parameters, transform⟩ := step
    have hparameters := parameter_roundTrips.items.canonical_write h
    cases transform <;> exact Json.canonical_record (by simp [hparameters])
  read_write {step} h := by
    obtain ⟨sql, parameters, transform⟩ := step
    have hparameters := parameter_roundTrips.items.read_write h
    cases transform with
    | none =>
      have hfields : (Step.mk sql parameters none).toJson =
          .object [("parameters", .array (parameters.map Parameter.toJson)),
            ("sql", .string sql)] := by cbv
      rw [hfields]
      change (stepReader .value).ofFields _ none = _
      simp [RecordReader.ofFields, ofFields, visitFields, stepReader, upTo, required, hparameters,
        text_roundTrips.read_write]
    | some script =>
      have hfields : (Step.mk sql parameters (some script)).toJson =
          .object [("parameters", .array (parameters.map Parameter.toJson)),
            ("sql", .string sql), ("transform", .ofOption (some script))] := by cbv
      rw [hfields]
      change (stepReader .value).ofFields _ none = _
      simp [RecordReader.ofFields, ofFields, visitFields, stepReader, upTo, required, hparameters,
        text_roundTrips.read_write, optionalText_roundTrips.read_write]

/-! ### Run settings -/

theorem returnMode_roundTrips :
    RoundTrips (readReturnMode .value) ReturnMode.toJson fun _ => True where
  proper_of_read _ := trivial
  canonical_write {m} _ := by
    cases m with
    | specific index => exact Json.canonical_record (by simp [Json.ofNat])
    | all | last | merge => exact .string _
  read_write {m} _ := by
    cases m with
    | specific index =>
      exact map_eq_ok_iff.2 ⟨index, (uint64_roundTrips "usize").read_write trivial, rfl⟩
    | all | last | merge => rfl

theorem runSettings_roundTrips :
    RoundTrips (readRunSettings .value) RunSettings.toJson fun _ => True where
  proper_of_read _ := trivial
  canonical_write {r} _ := Json.canonical_record (by
    simp [Json.ofNat, returnMode_roundTrips.canonical_write])
  read_write {r} _ := by
    have hfields : r.toJson =
        .object [("preview", .bool r.preview), ("return_mode", r.returnMode.toJson),
          ("row_limit", .ofNat r.rowLimit.toNat), ("select_only", .bool r.selectOnly),
          ("stop_on_error", .bool r.stopOnError),
          ("use_transaction", .bool r.useTransaction)] := by cbv
    rw [hfields]
    change (runSettingsReader .value).ofFields _ none = _
    simp [RecordReader.ofFields, ofFields, visitFields, runSettingsReader, upTo,
      flag_roundTrips.read_write, returnMode_roundTrips.read_write,
      (uint64_roundTrips "u64").read_write]

/-! ### All models -/

/-- What is written of something that can be read is canonical, is read as the same, and is then
written as the same. -/
theorem RoundTrips.rewritten {α : Type} {read : Source → Except ReadFault α} {write : α → Json}
    {Proper : α → Prop} (h : RoundTrips read write Proper) {v : Json} {a : α}
    (ha : readValue read v = .ok a) :
    (write a).Canonical ∧ readValue read (write a) = .ok a ∧
      (readValue read (write a)).map write = .ok (write a) := by
  have hproper := h.proper_of_read ha
  have hread : readValue read (write a) = .ok a := h.read_write hproper
  exact ⟨h.canonical_write hproper, hread, map_eq_ok_iff.2 ⟨a, hread, rfl⟩⟩

/-- **Models are read as they are written, and what can be read has one written form.**  Exactly
the query models and the steps with canonical data values come back when they are written and read
again, and all run settings do.  Whatever data value a model is read from, what is written of the
model is canonical, is read as the same model, and is then written as it is. -/
theorem models_roundTrip :
    ((∀ m, readValue readQueryModel m.toJson = .ok m ↔ m.Canonical) ∧
      (∀ s, readValue (readStep .value) s.toJson = .ok s ↔ s.Canonical) ∧
      ∀ r, readValue (readRunSettings .value) r.toJson = .ok r) ∧
    (∀ v m, readValue readQueryModel v = .ok m →
      m.toJson.Canonical ∧ readValue readQueryModel m.toJson = .ok m ∧
        (readValue readQueryModel m.toJson).map QueryModel.toJson = .ok m.toJson) ∧
    (∀ v s, readValue (readStep .value) v = .ok s →
      s.toJson.Canonical ∧ readValue (readStep .value) s.toJson = .ok s ∧
        (readValue (readStep .value) s.toJson).map Step.toJson = .ok s.toJson) ∧
    ∀ v r, readValue (readRunSettings .value) v = .ok r →
      r.toJson.Canonical ∧ readValue (readRunSettings .value) r.toJson = .ok r ∧
        (readValue (readRunSettings .value) r.toJson).map RunSettings.toJson = .ok r.toJson := by
  refine ⟨⟨?_, ?_, ?_⟩, ?_, ?_, ?_⟩
  · exact fun m => queryModel_roundTrips.read_write_iff
  · exact fun s => step_roundTrips.read_write_iff
  · exact fun r => runSettings_roundTrips.read_write_iff.2 trivial
  · exact fun v m => queryModel_roundTrips.rewritten
  · exact fun v s => step_roundTrips.rewritten
  · exact fun v r => runSettings_roundTrips.rewritten

/-- Other names of fields, words in other spellings, values as one text or as `null`, fields that
are missing and fields that are not known. -/
theorem models_roundTrip_spellings :
    (∃ m, readValue readQueryModel
        (.object [("having", .array [.object [("column", .string "c"), ("fn", .string "Sum"),
            ("mode", .string "aggregate"), ("operator", .string ">"), ("value", .integer 1)]]),
          ("note", .bool true),
          ("select", .array [.object [("fn", .string "count"), ("mode", .string "aggregate")]]),
          ("where", .array [.object [("conditions", .array [
              .object [("field", .string "a"), ("mode", .string "column"),
                ("operator", .string "not in"), ("values", .string "x, y")],
              .object [("column", .string "b"), ("mode", .string "between"), ("values", .null)],
              .object [("existsQuery", .string "SELECT 1"), ("mode", .string "exists")]]),
            ("filterType", .string " or ")]])]) = .ok m ∧
      m.toJson =
        .object [("filters", .array [.object [("conditions", .array [
              .object [("column", .string "a"), ("mode", .string "column"),
                ("operator", .string "NOT_IN"), ("value", .null),
                ("values", .array [.string "x", .string "y"])],
              .object [("column", .string "b"), ("mode", .string "between"),
                ("values", .array [])],
              .object [("mode", .string "exists"), ("sql", .string "SELECT 1")]]),
            ("filterType", .string "OR")]]),
          ("groupBy", .array []),
          ("having", .array [.object [("field", .string "c"), ("function", .string "SUM"),
            ("mode", .string "aggregate"), ("operator", .string "GREATER"),
            ("value", .integer 1)]]),
          ("limit", .null), ("orderBy", .array []),
          ("select", .array [.object [("alias", .null), ("distinct", .bool false),
            ("field", .null), ("function", .string "COUNT"), ("mode", .string "aggregate")]])] ∧
      m.toJson.Canonical ∧ readValue readQueryModel m.toJson = .ok m) ∧
    (∃ s, readValue (readStep .value)
        (.object [("bindings", .array [.object [("type", .string "sql-escape")]]),
          ("sql", .string "SELECT ?")]) = .ok s ∧
      s.toJson =
        .object [("parameters", .array [.object [("type", .string "sql"), ("value", .null)]]),
          ("sql", .string "SELECT ?")] ∧
      s.toJson.Canonical ∧ readValue (readStep .value) s.toJson = .ok s) ∧
    ∃ r, readValue (readRunSettings .value)
        (.object [("return_mode", .object [("specific", .integer 1)])]) = .ok r ∧
      r.toJson =
        .object [("preview", .bool false), ("return_mode", .object [("specific", .integer 1)]),
          ("row_limit", .integer 200), ("select_only", .bool false),
          ("stop_on_error", .bool false), ("use_transaction", .bool false)] ∧
      r.toJson.Canonical ∧ readValue (readRunSettings .value) r.toJson = .ok r := by
  obtain ⟨queries, steps, settings⟩ := models_roundTrip.2
  refine ⟨⟨⟨[.aggregate .count none false none],
      [⟨.or, [.test "a" .notInList .null [.string "x", .string "y"], .range false "b" [],
        .subquery false "SELECT 1"]⟩], [], [.aggregate .sum (some "c") .greater (.integer 1)], [],
      none⟩, ?query, by cbv, (queries _ _ ?query).1, (queries _ _ ?query).2.1⟩,
    ⟨⟨"SELECT ?", [⟨.sql, .null⟩], none⟩, ?step, by cbv, (steps _ _ ?step).1,
      (steps _ _ ?step).2.1⟩,
    ⟨{ returnMode := .specific 1 }, ?settings, by cbv, (settings _ _ ?settings).1,
      (settings _ _ ?settings).2.1⟩⟩
  all_goals rfl

end BoundQuery
