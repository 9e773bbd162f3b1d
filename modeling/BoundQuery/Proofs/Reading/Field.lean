import BoundQuery.Proofs.Decimal.Digits
import BoundQuery.Proofs.Reading.Record
import BoundQuery.Reading.Query
import BoundQuery.Writing.Query

/-!
# What is written and read again

How a kind of values is read and how it is written **belong together** (`RoundTrips`) if all that
can be read is proper, and a proper value is written in canonical form and read again as it is.
Here this is shown of the plain kinds, of words, and of lists (`RoundTrips.items`).
-/

namespace BoundQuery

open Source

variable {α : Type}

/-- Whether reading gives proper values only, and a proper value is written in canonical form and
then read again as it is. -/
structure RoundTrips (read : Source → Except ReadFault α) (write : α → Json) (Proper : α → Prop) :
    Prop where
  /-- What is read is proper. -/
  proper_of_read {s : Source} {a : α} : read s = .ok a → Proper a
  /-- A proper value is written in canonical form. -/
  canonical_write {a : α} : Proper a → (write a).Canonical
  /-- A proper value is read again as it is. -/
  read_write {a : α} : Proper a → read (ofJson (write a)) = .ok a

/-- Exactly the proper values are read again as they are. -/
theorem RoundTrips.read_write_iff {read : Source → Except ReadFault α} {write : α → Json}
    {Proper : α → Prop} (h : RoundTrips read write Proper) {a : α} :
    readValue read (write a) = .ok a ↔ Proper a :=
  ⟨h.proper_of_read, h.read_write⟩

/-! ### Plain kinds -/

theorem text_roundTrips : RoundTrips text .string fun _ => True where
  proper_of_read _ := trivial
  canonical_write _ := .string _
  read_write _ := rfl

theorem optionalText_roundTrips : RoundTrips optionalText .ofOption fun _ => True where
  proper_of_read _ := trivial
  canonical_write _ := Json.canonical_ofOption _
  read_write {s} _ := by cases s <;> rfl

theorem flag_roundTrips : RoundTrips flag .bool fun _ => True where
  proper_of_read _ := trivial
  canonical_write _ := .bool _
  read_write _ := rfl

theorem value_roundTrips : RoundTrips value id Json.Canonical where
  proper_of_read h := canonical_of_read (mapError_eq_ok h)
  canonical_write h := h
  read_write {v} h := by rw [id, value, read_ofJson h]; rfl

theorem value_ofJson {v : Json} (h : v.Canonical) : value (ofJson v) = .ok v :=
  value_roundTrips.read_write h

theorem values_roundTrips : RoundTrips readValues .array fun vs => ∀ v ∈ vs, v.Canonical where
  proper_of_read {s vs} h := by
    rw [readValues] at h
    split at h <;> cases h
    next hs => exact Json.canonical_array_iff.1 (value_roundTrips.proper_of_read hs)
    next w _ =>
      rw [commaValues]
      split
      · exact List.forall_mem_nil _
      · intro v hv
        obtain ⟨_, -, rfl⟩ := List.mem_map.1 hv
        exact .string _
    next => exact List.forall_mem_nil _
  canonical_write h := .array h
  read_write {vs} h := by
    rw [readValues, value_ofJson (.array h)]

theorem limit_roundTrips : RoundTrips readLimit limitJson fun _ => True where
  proper_of_read _ := trivial
  canonical_write {n} _ := by cases n <;> simp [limitJson]
  read_write {n} _ := by
    cases n with
    | none => rfl
    | some n => simp only [limitJson, ofJson, readLimit, int64, int64OfInt?_toInt, Except.map]

theorem uint64_roundTrips (type : String) :
    RoundTrips (uint64 type) (fun n => .ofNat n.toNat) fun _ => True where
  proper_of_read _ := trivial
  canonical_write _ := .integer _
  read_write {n} _ := by
    simp only [Json.ofNat, ← Int.ofNat_eq_natCast, ofJson, uint64, uint64OfNat?_toNat]

/-! ### Words -/

/-- A word is read again if each word of its list is. -/
theorem word_roundTrips {read : String → Except WordFault α} {name : α → String}
    (h : ∀ a, read (name a) = .ok a) :
    RoundTrips (word read) (fun a => .string (name a)) fun _ => True where
  proper_of_read _ := trivial
  canonical_write _ := .string _
  read_write {a} _ := by simp only [ofJson, word, text, h, Except.mapError]

theorem aggregate_roundTrips :
    RoundTrips (word Aggregate.read) (fun f => .string f.name) fun _ => True :=
  word_roundTrips fun f => by cases f <;> rfl

theorem connector_roundTrips :
    RoundTrips (word Connector.read) (fun c => .string c.name) fun _ => True :=
  word_roundTrips fun c => by cases c <;> rfl

theorem operator_roundTrips :
    RoundTrips (word Operator.read) (fun o => .string o.name) fun _ => True :=
  word_roundTrips fun o => by cases o <;> rfl

theorem direction_roundTrips :
    RoundTrips (word Direction.read) (fun d => .string d.name) fun _ => True :=
  word_roundTrips fun d => by cases d <;> rfl

/-! ### Lists -/

theorem items_eq_ok {read : Source → Except ReadFault α} {s : Source} {as : List α}
    (h : s.items read = .ok as) : ∀ a ∈ as, ∃ s, read s = .ok a := by
  cases s with
  | array items breach =>
    rw [Source.items] at h
    split at h
    · cases h
    next as' has =>
      obtain rfl := upTo_eq_ok h
      exact fun a ha => (exists_of_mem_answers has ha).imp fun _ h => h.2
  | _ => cases h

theorem RoundTrips.items {read : Source → Except ReadFault α} {write : α → Json}
    {Proper : α → Prop} (h : RoundTrips read write Proper) :
    RoundTrips (Source.items read) (fun as => .array (as.map write)) fun as => ∀ a ∈ as, Proper a
    where
  proper_of_read has a ha := (items_eq_ok has a ha).elim fun _ => h.proper_of_read
  canonical_write has := .array fun v hv => by
    obtain ⟨a, ha, rfl⟩ := List.mem_map.1 hv
    exact h.canonical_write (has a ha)
  read_write {as} has := by
    have hmap : (ofItems (as.map write)).mapM read = .ok as := by
      rw [ofItems_eq, mapM_eq_ok_iff, List.forall₂_map_left_iff, List.forall₂_map_left_iff]
      exact List.forall₂_same.2 fun a ha => h.read_write (has a ha)
    simp only [ofJson, Source.items, hmap, upTo]

end BoundQuery
