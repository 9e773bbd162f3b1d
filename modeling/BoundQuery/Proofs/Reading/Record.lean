import BoundQuery.Proofs.Except
import BoundQuery.Proofs.Reading.Canonical
import BoundQuery.Proofs.Reading.Fields
import BoundQuery.Reading.Record

/-!
# Readers of records

Two sides of a reader of records.

* `RecordReader.Yields`: **what it can make at all**. A condition on the slots that every field
  keeps holds of the slots that the value is made of (`visitFields_kept`), whether the record is an
  object or an array (`RecordReader.Yields.readRecord`, `RecordReader.Yields.readTagged`).
* `readTagged_tagged`: **what it makes of a written record**, where the tag stands among the other
  fields, at its place in their order.
-/

namespace BoundQuery

variable {α σ κ : Type}

/-! ### What a reader makes -/

theorem fill_eq_ok {slot : Option α} {name : String} {read : Except ReadFault α} {put : α → σ}
    {slots : σ} (h : fill slot name read put = .ok slots) : ∃ a, read = .ok a ∧ put a = slots := by
  rw [fill] at h
  split at h
  · cases h
  · exact map_eq_ok_iff.1 h

@[simp] theorem fill_none (name : String) (a : α) (put : α → σ) :
    fill none name (.ok a) put = .ok (put a) := rfl

theorem skip_eq_ok {s : Source} {slots slots' : σ} (h : skip s slots = .ok slots') :
    slots = slots' := by
  rw [skip] at h
  split at h <;> cases h
  rfl

theorem Source.upTo_eq_ok {breach : Option Breach} {a b : α} (h : upTo breach a = .ok b) :
    a = b := by
  cases breach <;> cases h
  rfl

theorem of_mem_none {P : α → Prop} : ∀ a ∈ (none : Option α), P a :=
  fun a h => (Option.not_mem_none a h).elim

theorem of_mem_some {P : α → Prop} {a : α} (h : P a) : ∀ b ∈ some a, P b :=
  fun _ hb => Option.some.inj hb ▸ h

/-- What holds of the value in a slot and of the default holds of the one that is taken. -/
theorem of_getD {P : α → Prop} {slot : Option α} {default : α} (h : ∀ a ∈ slot, P a)
    (hdefault : P default) : P (slot.getD default) := by
  cases slot with
  | none => exact hdefault
  | some a => exact h a rfl

/-- What each field keeps, all fields keep. -/
theorem visitFields_kept {Kept : σ → Prop} {visit : σ → String → Source → Except ReadFault σ}
    (hvisit : ∀ {slots name s slots'}, Kept slots → visit slots name s = .ok slots' → Kept slots')
    {slots slots' : σ} (h : Kept slots) {fields : List SourceField}
    (hfields : visitFields visit slots fields = .ok slots') : Kept slots' := by
  induction fields generalizing slots with
  | nil => exact Except.ok.inj hfields ▸ h
  | cons field rest ih =>
    obtain ⟨_ | name, s⟩ := field
    · cases hfields
    · rw [visitFields] at hfields
      split at hfields
      · cases hfields
      next hfirst => exact ih (hvisit h hfirst) hfields

namespace RecordReader

/-- Whether all that the reader makes has a property: a condition on the slots holds before any
field, is kept by each field, and leads to the property. -/
def Yields (r : RecordReader α) (P : α → Prop) : Prop :=
  ∃ Kept : r.Slots → Prop, Kept r.empty ∧
    (∀ {slots name s slots'}, Kept slots → r.visit slots name s = .ok slots' → Kept slots') ∧
    ∀ {slots a}, Kept slots → r.finish slots = .ok a → P a

namespace Yields

variable {r : RecordReader α} {P : α → Prop}

theorem ofFields (h : r.Yields P) {fields : List SourceField} {breach : Option Breach} {a : α}
    (ha : r.ofFields fields breach = .ok a) : P a := by
  obtain ⟨Kept, hempty, hvisit, hfinish⟩ := h
  rw [RecordReader.ofFields] at ha
  split at ha
  · cases ha
  next slots hslots =>
    split at ha
    · cases ha
    next slots' hslots' =>
      obtain rfl := Source.upTo_eq_ok hslots'
      exact hfinish (visitFields_kept hvisit hempty hslots) ha

theorem ofItems (h : r.Yields P) {title : String} {items : List Source} {a : α}
    (ha : r.ofItems title items = .ok a) : P a := by
  obtain ⟨Kept, hempty, hvisit, hfinish⟩ := h
  rw [RecordReader.ofItems] at ha
  split at ha
  · cases ha
  next slots hslots =>
    exact hfinish (visitFields_kept hvisit hempty hslots) (mapError_eq_ok ha)

theorem ofArray (h : r.Yields P) {title : String} {items : List Source} {breach : Option Breach}
    {a : α} (ha : r.ofArray title items breach = .ok a) : P a := by
  unfold RecordReader.ofArray at ha
  split at ha
  · split at ha
    · cases ha
    · cases breach with
      | none => exact h.ofItems ha
      | some breach => cases ha
  · split at ha
    · cases ha
    next b hb =>
      split at ha
      · cases ha
      · cases breach with
        | none => exact Except.ok.inj ha ▸ h.ofItems hb
        | some breach => cases ha

theorem readRecord (h : r.Yields P) {type : String} {s : Source} {a : α}
    (ha : readRecord type r s = .ok a) : P a := by
  cases s with
  | object fields breach => exact h.ofFields ha
  | array items breach => exact h.ofArray ha
  | _ => cases ha

theorem readTagged {reader : κ → RecordReader α} (h : ∀ kind, (reader kind).Yields P)
    {type : String} {known : List (String × κ)} {s : Source} {a : α}
    (ha : readTagged type known reader s = .ok a) : P a := by
  cases s with
  | object fields breach =>
    rw [BoundQuery.readTagged] at ha
    split at ha
    · cases ha
    next tag fields' _ =>
      cases breach with
      | some breach => cases ha
      | none =>
        cases tag with
        | none => cases ha
        | some kind => exact (h kind).ofFields ha
  | array items breach =>
    cases items with
    | nil =>
      obtain ⟨_, -, ha⟩ := bind_eq_ok_iff.1 ha
      cases ha
    | cons tag items =>
      obtain ⟨⟨word, kind⟩, -, ha⟩ := bind_eq_ok_iff.1 ha
      obtain ⟨_, -, ha⟩ := bind_eq_ok_iff.1 ha
      obtain ⟨_, -, ha⟩ := bind_eq_ok_iff.1 ha
      rw [readTaggedItems] at ha
      split at ha
      · cases ha
      next b hb =>
        split at ha <;> cases ha
        exact (h kind).ofItems hb
  | _ => cases ha

end Yields

end RecordReader

/-! ### Written records -/

open Source

/-- **A written tagged record is read by the reader of its kind**, from the fields that are not
its tag. -/
theorem readTagged_tagged {type : String} {known : List (String × κ)}
    {reader : κ → RecordReader α} {word : String} (kind : κ)
    (hkind : known.lookup word = some kind) (before : List (String × Json))
    {after : List (String × Json)} (h : ∀ e ∈ before ++ after, e.1 ≠ tagName ∧ e.2.Canonical) :
    readTagged type known reader
        (ofJson (.object (before ++ (tagName, .string word) :: after))) =
      (reader kind).ofFields (ofFields (before ++ after)) none := by
  have hfields : ofFields (before ++ (tagName, .string word) :: after) =
      ofFields before ++ (.ok tagName, .string word) :: ofFields after := by
    simp [ofFields_eq, ofJson]
  have happend : ofFields before ++ ofFields after = ofFields (before ++ after) := by
    simp [ofFields_eq]
  have hnames : ∀ f ∈ ofFields (before ++ after), f.1 ≠ .ok tagName := by
    rw [ofFields_eq, List.forall_mem_map]
    exact fun e he hname => (h e he).1 (Except.ok.inj hname)
  have hread := readFields_ofFields fun e he => read_ofJson (h e he).2
  rw [ofJson, hfields, readTagged_inserted type reader hkind _ (happend.symm ▸ hnames), happend,
    hread]
  rfl

end BoundQuery
