import BoundQuery.Json.Source

/-!
# Canonical data values

A data value is **canonical** if in every object inside it the fields stand in the order of their
names, each name once, and no number inside it is an infinity or a NaN. These are the values that
texts have:

* `Source.canonical_of_read`: the value of a tree is canonical, whatever the tree repeats and in
  whatever order;
* `Source.read_ofJson`: a canonical value, taken as a tree, has itself for its value.
-/

namespace BoundQuery

/-- Whether the fields of all objects are in order and all doubles are finite. -/
inductive Json.Canonical : Json → Prop where
  /-- The value that stands for no value is canonical. -/
  | null : Canonical .null
  /-- A truth value is canonical. -/
  | bool (value : Bool) : Canonical (.bool value)
  /-- An integer is canonical. -/
  | integer (value : Int) : Canonical (.integer value)
  /-- A double is canonical if it is finite. -/
  | real {value : Double} (finite : value.isFinite = true) : Canonical (.real value)
  /-- A text is canonical. -/
  | string (value : String) : Canonical (.string value)
  /-- An array is canonical if its items are. -/
  | array {items : List Json} (each : ∀ v ∈ items, Canonical v) : Canonical (.array items)
  /-- An object is canonical if its fields are, and are in order. -/
  | object {fields : List (String × Json)} (ordered : Keyed.Ordered fields)
      (each : ∀ e ∈ fields, Canonical e.2) : Canonical (.object fields)

attribute [simp] Json.Canonical.null Json.Canonical.bool Json.Canonical.integer
  Json.Canonical.string

namespace Json

@[simp] theorem canonical_array_iff {items : List Json} :
    (Json.array items).Canonical ↔ ∀ v ∈ items, v.Canonical :=
  ⟨fun | .array each => each, .array⟩

theorem canonical_record {fields : List (String × Json)} (h : ∀ e ∈ fields, e.2.Canonical) :
    (record fields).Canonical :=
  .object (Keyed.ordered_ofList fields) fun e he => h e (Keyed.mem_of_mem_ofList he)

theorem canonical_ofDouble (x : Double) : (ofDouble x).Canonical := by
  rw [ofDouble]
  split
  next finite => exact .real finite
  next => exact .null

@[simp] theorem canonical_ofOption (s : Option String) : (ofOption s).Canonical := by
  cases s with
  | none => exact .null
  | some s => exact .string s

end Json

namespace Source

/-! ### What is read -/

mutual

/-- **A value that is read is canonical.** -/
theorem canonical_of_read {s : Source} {v : Json} (h : s.read = .ok v) : v.Canonical := by
  cases s with
  | null | bool | integer | string =>
    simp only [read, Except.ok.injEq] at h
    simp [← h]
  | real x =>
    obtain rfl := Except.ok.inj h
    exact Json.canonical_ofDouble x
  | array items breach =>
    unfold read at h
    split at h <;> cases h
    next vs hvs => exact .array (canonical_of_readItems hvs)
  | object fields breach =>
    unfold read at h
    split at h <;> cases h
    next vs hvs => exact Json.canonical_record (canonical_of_readFields hvs)
  | valueless | broken => cases h

theorem canonical_of_readItems {items : List Source} {vs : List Json}
    (h : readItems items = .ok vs) : ∀ v ∈ vs, v.Canonical := by
  cases items with
  | nil => exact Except.ok.inj h ▸ List.forall_mem_nil _
  | cons s rest =>
    unfold readItems at h
    split at h <;> cases h
    next v vs hv hvs =>
      exact List.forall_mem_cons.2 ⟨canonical_of_read hv, canonical_of_readItems hvs⟩

theorem canonical_of_readFields {fields : List (Except SyntaxFault String × Source)}
    {vs : List (String × Json)} (h : readFields fields = .ok vs) : ∀ e ∈ vs, e.2.Canonical := by
  cases fields with
  | nil => exact Except.ok.inj h ▸ List.forall_mem_nil _
  | cons field rest =>
    obtain ⟨name, s⟩ := field
    unfold readFields at h
    split at h <;> cases h
    next n v vs hv hvs =>
      exact List.forall_mem_cons.2 ⟨canonical_of_read hv, canonical_of_readFields hvs⟩

end

/-! ### What is read back -/

theorem ofItems_eq (items : List Json) : ofItems items = items.map ofJson := by
  induction items with
  | nil => rfl
  | cons v rest ih => rw [ofItems, ih, List.map_cons]

theorem ofFields_eq (fields : List (String × Json)) :
    ofFields fields = fields.map fun e => (.ok e.1, ofJson e.2) := by
  induction fields with
  | nil => rfl
  | cons e rest ih => rw [ofFields, ih, List.map_cons]

theorem readItems_ofItems {items : List Json} (h : ∀ v ∈ items, (ofJson v).read = .ok v) :
    readItems (ofItems items) = .ok items := by
  induction items with
  | nil => rfl
  | cons v rest ih =>
    obtain ⟨hv, hrest⟩ := List.forall_mem_cons.1 h
    simp only [ofItems, readItems, hv, ih hrest]

theorem readFields_ofFields {fields : List (String × Json)}
    (h : ∀ e ∈ fields, (ofJson e.2).read = .ok e.2) :
    readFields (ofFields fields) = .ok fields := by
  induction fields with
  | nil => rfl
  | cons e rest ih =>
    obtain ⟨he, hrest⟩ := List.forall_mem_cons.1 h
    simp only [ofFields, readFields, he, ih hrest]

/-- **A canonical value is read back as it is.** -/
theorem read_ofJson {v : Json} (h : v.Canonical) : (ofJson v).read = .ok v := by
  induction h with
  | null | bool | integer | string => rfl
  | real finite => rw [ofJson, read, Json.ofDouble, if_pos finite]
  | array _ ih => simp only [ofJson, read, readItems_ofItems ih]
  | object ordered _ ih =>
    simp only [ofJson, read, readFields_ofFields ih, Json.record, ordered.ofList_eq]

end Source

end BoundQuery
