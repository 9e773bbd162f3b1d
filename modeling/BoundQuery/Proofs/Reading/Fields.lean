import BoundQuery.Proofs.Except
import BoundQuery.Reading.Record

/-!
# Fields side by side

Two objects are read side by side, field by field.  What is known of the slots before a field is
known after it, and so at the end, if the two fields are told alike.  A field that only one of the
objects has may change what is known.

* `agree_visitFields`, `agree_visitFields_inserted` : fields that fill slots;
* `agree_splitTag` : the tag is taken out of both objects;
* `readTagged_inserted` : **an object with one tag is read by the reader of its kind**, from its
  other fields, wherever the tag stands.
-/

namespace BoundQuery

variable {α β σ τ κ : Type}

/-! ### Slots -/

theorem agree_fill {R : α → β → Prop} {S : σ → τ → Prop} {slot : Option α} {slot' : Option β}
    (hslot : slot.isSome = slot'.isSome) (name : String) {x : Except ReadFault α}
    {y : Except ReadFault β} (h : Agree False False R x y) {put : α → σ} {put' : β → τ}
    (hput : ∀ a b, R a b → S (put a) (put' b)) :
    Agree False False S (fill slot name x put) (fill slot' name y put') := by
  unfold fill
  rw [hslot]
  split
  · exact .fault _
  · exact h.map hput

/-- One value is put into two slots that are filled alike. -/
theorem agree_fill_same {S : σ → τ → Prop} {slot slot' : Option α} (hslot : slot = slot')
    (name : String) (x : Except ReadFault α) {put : α → σ} {put' : α → τ}
    (hput : ∀ a, S (put a) (put' a)) :
    Agree False False S (fill slot name x put) (fill slot' name x put') := by
  refine agree_fill (by rw [hslot]) name (.refl x) ?_
  rintro a _ rfl
  exact hput a

theorem agree_skip {S : σ → τ → Prop} (s : Source) {a : σ} {b : τ} (h : S a b) :
    Agree False False S (skip s a) (skip s b) := by
  unfold skip
  split
  · exact h
  · exact .fault _

theorem agree_required {slot slot' : Option α} (h : slot = slot') (name : String) :
    Agree False False Eq (required slot name) (required slot' name) := h ▸ .refl _

/-! ### Fields -/

theorem visitFields_append (visit : σ → String → Source → Except ReadFault σ) (slots : σ)
    (fields more : List SourceField) :
    visitFields visit slots (fields ++ more) =
      visitFields visit slots fields >>= fun slots => visitFields visit slots more := by
  induction fields generalizing slots with
  | nil => rfl
  | cons field rest ih =>
    obtain ⟨_ | name, s⟩ := field
    · rfl
    · rw [List.cons_append, visitFields, visitFields]
      cases visit slots name s with
      | error fault => rfl
      | ok slots => exact ih slots

section Told

variable {F : SourceField → SourceField → Prop} {R : σ → τ → Prop}
  {visit : σ → String → Source → Except ReadFault σ}
  {visit' : τ → String → Source → Except ReadFault τ}

/-- What each pair of fields keeps, all fields keep. -/
theorem agree_visitFields (hname : ∀ {f g}, F f g → f.1 = g.1)
    (hvisit : ∀ {a b name s s'}, R a b → F (.ok name, s) (.ok name, s') →
      Agree False False R (visit a name s) (visit' b name s'))
    {fs gs : List SourceField} (h : List.Forall₂ F fs gs) {a : σ} {b : τ} (hab : R a b) :
    Agree False False R (visitFields visit a fs) (visitFields visit' b gs) := by
  induction h generalizing a b with
  | nil => exact hab
  | @cons f g fs gs hfg _ ih =>
    obtain ⟨name, s⟩ := f
    obtain ⟨name', s'⟩ := g
    obtain rfl : name = name' := hname hfg
    cases name with
    | error fault => exact .fault _
    | ok name =>
      rw [visitFields, visitFields]
      obtain ⟨e, hf, hg⟩ | ⟨a', b', hf, hg, hab'⟩ := (hvisit hab hfg).fault_or_ok
      · rw [hf, hg]
        exact .fault e
      · rw [hf, hg]
        exact ih hab'

/-- Fields that keep what is known, and among them one that only the second object has. -/
theorem agree_visitFields_inserted (R R' : σ → τ → Prop) {P : SourceField → Prop}
    (hvisit : ∀ {a b name s}, R a b → P (.ok name, s) →
      Agree False False R (visit a name s) (visit' b name s))
    (hvisit' : ∀ {a b name s}, R' a b → P (.ok name, s) →
      Agree False False R' (visit a name s) (visit' b name s))
    {name : String} {s : Source}
    (hput : ∀ {a b}, R a b → ∃ b', visit' b name s = .ok b' ∧ R' a b')
    {before after : List SourceField} (h : ∀ f ∈ before ++ after, P f) {a : σ} {b : τ}
    (hab : R a b) :
    Agree False False R' (visitFields visit a (before ++ after))
      (visitFields visit' b (before ++ (.ok name, s) :: after)) := by
  have hsame : ∀ {fs : List SourceField}, (∀ f ∈ fs, P f) →
      List.Forall₂ (fun f g => f = g ∧ P f) fs fs :=
    fun hfs => List.forall₂_same.2 fun f hf => ⟨rfl, hfs f hf⟩
  rw [visitFields_append, visitFields_append]
  refine (agree_visitFields (fun h => congrArg Prod.fst h.1) ?_
    (hsame fun f hf => h f (List.mem_append_left _ hf)) hab).bind fun a b hab => ?_
  · rintro a b name s s' hab ⟨heq, hP⟩
    obtain rfl := congrArg Prod.snd heq
    exact hvisit hab hP
  · obtain ⟨b', hb', hab'⟩ := hput hab
    rw [visitFields, hb']
    refine agree_visitFields (fun h => congrArg Prod.fst h.1) ?_
      (hsame fun f hf => h f (List.mem_append_right _ hf)) hab'
    rintro a b name s s' hab ⟨heq, hP⟩
    obtain rfl := congrArg Prod.snd heq
    exact hvisit' hab hP

end Told

theorem RecordReader.ofFields_none (r : RecordReader α) (fields : List SourceField) :
    r.ofFields fields none = visitFields r.visit r.empty fields >>= r.finish := by
  rw [RecordReader.ofFields]
  cases visitFields r.visit r.empty fields <;> rfl

/-- Two readers of fields that are told alike make what the slots make. -/
theorem RecordReader.agree_ofFields {r r' : RecordReader α} (R : r.Slots → r'.Slots → Prop)
    {F : SourceField → SourceField → Prop} {C : α → α → Prop}
    (hname : ∀ {f g}, F f g → f.1 = g.1)
    (hvisit : ∀ {a b name s s'}, R a b → F (.ok name, s) (.ok name, s') →
      Agree False False R (r.visit a name s) (r'.visit b name s'))
    (hempty : R r.empty r'.empty)
    (hfinish : ∀ a b, R a b → Agree False False C (r.finish a) (r'.finish b))
    {fs gs : List SourceField} (h : List.Forall₂ F fs gs) :
    Agree False False C (r.ofFields fs none) (r'.ofFields gs none) := by
  rw [ofFields_none, ofFields_none]
  exact (agree_visitFields hname hvisit h hempty).bind hfinish

/-! ### Tags -/

/-- Whether two fields are one, or two that are not the tag and whose values can be read. -/
def Waiting (f g : SourceField) : Prop :=
  f = g ∨ ∃ name s s' v v', name ≠ tagName ∧ f = (.ok name, s) ∧ g = (.ok name, s') ∧
    s.read = .ok v ∧ s'.read = .ok v'

theorem Waiting.name_eq {f g : SourceField} (h : Waiting f g) : f.1 = g.1 := by
  obtain rfl | ⟨name, s, s', v, v', -, rfl, rfl, -, -⟩ := h <;> rfl

theorem agree_splitTag {F : SourceField → SourceField → Prop} (hF : ∀ {f g}, F f g → Waiting f g)
    (known : List (String × κ)) (tag : Option κ) {fs gs : List SourceField}
    (h : List.Forall₂ F fs gs) :
    Agree False False (fun p q => p.1 = q.1 ∧ List.Forall₂ F p.2 q.2) (splitTag known tag fs)
      (splitTag known tag gs) := by
  induction h generalizing tag with
  | nil => exact ⟨rfl, .nil⟩
  | @cons f g fs gs hfg _ ih =>
    -- A pair of fields that wait is put in front of what is left of the fields behind.
    have hwait : ∀ name s s', F (.ok name, s) (.ok name, s') →
        Agree False False
          (fun (p q : Option κ × List SourceField) => p.1 = q.1 ∧ List.Forall₂ F p.2 q.2)
          ((splitTag known tag fs).map fun p => (p.1, (.ok name, s) :: p.2))
          ((splitTag known tag gs).map fun q => (q.1, (.ok name, s') :: q.2)) :=
      fun name s s' hfg => (ih tag).map fun p q hpq => ⟨hpq.1, .cons hfg hpq.2⟩
    obtain rfl | ⟨name, s, s', v, v', hname, rfl, rfl, hs, hs'⟩ := hF hfg
    · obtain ⟨_ | name, s⟩ := f
      · exact .fault _
      · rw [splitTag, splitTag]
        split
        · split
          · exact .fault _
          · cases readTag known s with
            | error fault => exact .fault fault
            | ok p => exact ih (some p.2)
        · cases s.read with
          | error fault => exact .fault _
          | ok v => exact hwait name s s hfg
    · rw [splitTag, splitTag, if_neg hname, if_neg hname, hs, hs']
      exact hwait name s s' hfg

open Source

theorem readFields_cons (name : String) (s : Source) (rest : List SourceField) :
    readFields ((.ok name, s) :: rest) =
      s.read >>= fun v => (readFields rest).map fun vs => (name, v) :: vs := by
  cases hs : s.read <;> cases hrest : readFields rest <;> simp only [readFields, hs, hrest] <;> rfl

theorem splitTag_untagged (known : List (String × κ)) (tag : Option κ) {fields : List SourceField}
    (h : ∀ f ∈ fields, f.1 ≠ .ok tagName) :
    splitTag known tag fields =
      ((readFields fields).mapError .malformed).map fun _ => (tag, fields) := by
  induction fields with
  | nil => rfl
  | cons field rest ih =>
    obtain ⟨hfield, hrest⟩ := List.forall_mem_cons.1 h
    obtain ⟨_ | name, s⟩ := field
    · rfl
    · rw [splitTag, if_neg fun hname => hfield (congrArg Except.ok hname), readFields_cons, ih hrest]
      cases s.read with
      | error fault => rfl
      | ok v => cases readFields rest <;> rfl

theorem splitTag_inserted {known : List (String × κ)} {word : String} {kind : κ}
    (hkind : known.lookup word = some kind) (before : List SourceField) {after : List SourceField}
    (h : ∀ f ∈ before ++ after, f.1 ≠ .ok tagName) :
    splitTag known none (before ++ (.ok tagName, .string word) :: after) =
      ((readFields (before ++ after)).mapError .malformed).map fun _ =>
        (some kind, before ++ after) := by
  induction before with
  | nil =>
    have htag : readTag known (.string word) = .ok (word, kind) := by
      rw [readTag, variant?, hkind]
      rfl
    rw [List.nil_append, splitTag, if_pos rfl, htag]
    exact splitTag_untagged known (some kind) h
  | cons field rest ih =>
    obtain ⟨hfield, hrest⟩ := List.forall_mem_cons.1 h
    obtain ⟨_ | name, s⟩ := field
    · rfl
    · rw [List.cons_append, splitTag, if_neg fun hname => hfield (congrArg Except.ok hname),
        List.cons_append, readFields_cons, ih hrest]
      cases s.read with
      | error fault => rfl
      | ok v => cases readFields (rest ++ after) <;> rfl

/-- An object with one tag is read by the reader of its kind, from its other fields, once all of
them can be read and the object comes to its end. -/
theorem readTagged_inserted (type : String) {known : List (String × κ)}
    (reader : κ → RecordReader α) {word : String} {kind : κ}
    (hkind : known.lookup word = some kind) (before : List SourceField) {after : List SourceField}
    (h : ∀ f ∈ before ++ after, f.1 ≠ .ok tagName) (breach : Option Breach) :
    readTagged type known reader
        (.object (before ++ (.ok tagName, .string word) :: after) breach) =
      (readFields (before ++ after)).mapError .malformed >>= fun _ =>
        upTo breach () >>= fun _ => (reader kind).ofFields (before ++ after) none := by
  rw [readTagged, splitTag_inserted hkind before h]
  cases readFields (before ++ after) with
  | error fault => rfl
  | ok vs => cases breach <;> rfl

/-- A field whose value can be read makes no difference to whether all fields can be. -/
theorem agree_readFields_inserted (before : List SourceField) {after : List SourceField}
    {name : String} {s : Source} {v : Json} (hs : s.read = .ok v) :
    Agree False False (fun _ _ => True) (readFields (before ++ after))
      (readFields (before ++ (.ok name, s) :: after)) := by
  induction before with
  | nil =>
    rw [List.nil_append, List.nil_append, readFields_cons, hs]
    cases readFields after with
    | error fault => exact .fault fault
    | ok vs => trivial
  | cons field rest ih =>
    obtain ⟨_ | other, s'⟩ := field
    · exact .fault _
    · rw [List.cons_append, List.cons_append, readFields_cons, readFields_cons]
      exact (Agree.refl s'.read).bind fun _ _ _ => ih.map fun _ _ _ => trivial

/-- Two objects that are told alike, as far as each kind of reader goes, are read alike. -/
theorem agree_readTagged {C : α → α → Prop} {F : SourceField → SourceField → Prop}
    (hF : ∀ {f g}, F f g → Waiting f g) (type : String) (known : List (String × κ))
    {reader : κ → RecordReader α}
    (hreader : ∀ kind {fs gs}, List.Forall₂ F fs gs →
      Agree False False C ((reader kind).ofFields fs none) ((reader kind).ofFields gs none))
    {fs gs : List SourceField} (h : List.Forall₂ F fs gs) (breach : Option Breach) :
    Agree False False C (readTagged type known reader (.object fs breach))
      (readTagged type known reader (.object gs breach)) := by
  obtain ⟨e, hf, hg⟩ | ⟨⟨tag, fs'⟩, ⟨_, gs'⟩, hf, hg, rfl, hrest⟩ :=
    (agree_splitTag hF known none h).fault_or_ok
  · rw [readTagged, readTagged, hf, hg]
    exact .fault e
  · rw [readTagged, readTagged, hf, hg]
    cases breach with
    | some breach => exact .fault _
    | none =>
      cases tag with
      | none => exact .fault _
      | some kind => exact hreader kind hrest

/-! ### Arrays with a tag -/

theorem readTagged_array (type : String) {known : List (String × κ)}
    (reader : κ → RecordReader α) {word : String} {kind : κ}
    (hkind : known.lookup word = some kind) (items : List Source) (breach : Option Breach) :
    readTagged type known reader (.array (.string word :: items) breach) =
      items.mapM Source.value >>= fun _ => upTo breach () >>= fun _ =>
        readTaggedItems (variantTitle type word) (reader kind) items := by
  rw [readTagged, readTag, variant?, hkind]
  rfl

theorem readTaggedItems_eq (title : String) (r : RecordReader α) (items : List Source) :
    readTaggedItems title r items =
      r.ofItems title items >>= fun a =>
        if r.names.length < items.length then
          .error (.wrongLength items.length (elements r.names.length ++ " in sequence"))
        else .ok a := by
  rw [readTaggedItems]
  cases r.ofItems title items <;> rfl

end BoundQuery
