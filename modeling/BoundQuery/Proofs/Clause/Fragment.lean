import BoundQuery.Clause.Where
import BoundQuery.Proofs.Scan.Placeholder

/-!
# Fragments with one placeholder per value

A fragment is a text and the values for its placeholders, and clauses are put together from
fragments.  What counts for the whole is what a reader of the text does: as long as every piece
leaves the reader in code, each piece is read as if it stood alone.

* `Fragment.Balanced` : a reader in code goes through the text, finds one placeholder per value and
  is in code again; what is put together from balanced fragments is balanced (`Balanced.append`,
  `Balanced.joined`);
* `Fragment.Carries` : a fragment stands in a text, and exactly the placeholders for its own values
  stand in it;
* `Fragment.Within` : a fragment behind a balanced one; `Within.carries` shows that **a balanced
  fragment is carried wherever it stands behind a balanced one.**
-/

namespace BoundQuery

namespace Fragment

/-- Whether a fragment with one placeholder per value stands in another one, behind `n` values, so
that the placeholders in its text are those for its own values. -/
def Carries (f p : Fragment) (n : Nat) : Prop :=
  placeholderCount p.sql = p.values.length ∧
    ∃ front back : String, f.sql = front ++ p.sql ++ back ∧
      (∀ k < p.values.length, f.values[n + k]? = p.values[k]?) ∧
      ∀ j o, (placeholderOffsets f.sql)[j]? = some o →
        (front.length ≤ o ∧ o < front.length + p.sql.length ↔ n ≤ j ∧ j < n + p.values.length)

/-- Whether a reader in code finds one placeholder per value and is in code again. -/
structure Balanced (f : Fragment) : Prop where
  /-- The reader ends in code. -/
  after : Region.code.after f.sql.toList = .code
  /-- There is one placeholder per value. -/
  count : Region.code.count f.sql.toList = f.values.length

/-- One fragment behind another. -/
instance : Append Fragment := ⟨fun f g => ⟨f.sql ++ g.sql, f.values ++ g.values⟩⟩

/-- Fragments with a text between them. -/
def joined (separator : String) (fs : List Fragment) : Fragment :=
  ⟨separator.intercalate (fs.map Fragment.sql), Scope.allValues fs⟩

@[simp] theorem sql_append (f g : Fragment) : (f ++ g).sql = f.sql ++ g.sql := rfl

@[simp] theorem values_append (f g : Fragment) : (f ++ g).values = f.values ++ g.values := rfl

theorem append_assoc (f g h : Fragment) : f ++ g ++ h = f ++ (g ++ h) := by
  change Fragment.mk _ _ = Fragment.mk _ _
  simp [String.append_assoc]

theorem empty_append (f : Fragment) : empty ++ f = f := by
  change Fragment.mk _ _ = _
  simp [empty]

theorem append_empty (f : Fragment) : f ++ empty = f := by
  change Fragment.mk _ _ = _
  simp [empty]

theorem joined_cons_cons (separator : String) (f g : Fragment) (fs : List Fragment) :
    joined separator (f :: g :: fs) = f ++ text separator ++ joined separator (g :: fs) := by
  change Fragment.mk _ _ = Fragment.mk _ _
  simp [joined, String.intercalate_cons_cons, Scope.allValues, text, String.append_assoc]

theorem joined_singleton (separator : String) (f : Fragment) : joined separator [f] = f := by
  simp [joined, Scope.allValues]

theorem balanced_empty : empty.Balanced := ⟨rfl, rfl⟩

theorem Balanced.append {f g : Fragment} (hf : f.Balanced) (hg : g.Balanced) :
    (f ++ g).Balanced where
  after := by rw [sql_append, String.toList_append, Region.after_append, hf.after, hg.after]
  count := by
    rw [sql_append, String.toList_append, Region.count_append, hf.after, hf.count, hg.count,
      values_append, List.length_append]

/-- A text in front of a fragment. -/
theorem Balanced.text_append {a b : String} {vs : List BindValue} (ha : (text a).Balanced)
    (hb : Balanced ⟨b, vs⟩) : Balanced ⟨a ++ b, vs⟩ := ha.append hb

/-- A text behind a fragment. -/
theorem Balanced.append_text {a b : String} {vs : List BindValue} (ha : Balanced ⟨a, vs⟩)
    (hb : (text b).Balanced) : Balanced ⟨a ++ b, vs⟩ := by
  have h := ha.append hb
  rwa [show Fragment.mk a vs ++ text b = ⟨a ++ b, vs ++ []⟩ from rfl, List.append_nil] at h

theorem Balanced.joined {separator : String} (hsep : (text separator).Balanced)
    {fs : List Fragment} (h : ∀ f ∈ fs, f.Balanced) : (joined separator fs).Balanced := by
  induction fs with
  | nil => exact balanced_empty
  | cons f fs ih =>
    cases fs with
    | nil =>
      rw [joined_singleton]
      exact h f List.mem_cons_self
    | cons g fs =>
      rw [joined_cons_cons]
      exact ((h f List.mem_cons_self).append hsep).append
        (ih fun f hf => h f (List.mem_cons_of_mem _ hf))

theorem Balanced.eq_empty {f : Fragment} (h : f.Balanced) (he : f.isEmpty = true) : f = empty := by
  obtain ⟨sql, values⟩ := f
  obtain rfl : sql = "" := String.isEmpty_iff.1 he
  obtain rfl : values = [] := List.eq_nil_of_length_eq_zero h.count.symm
  rfl

theorem Balanced.placeholderCount_eq {f : Fragment} (h : f.Balanced) :
    placeholderCount f.sql = f.values.length := by
  rw [BoundQuery.placeholderCount_eq, h.count]

theorem balanced_intercalate {separator : String} (hsep : (text separator).Balanced)
    {parts : List String} (h : ∀ part ∈ parts, (text part).Balanced) :
    (text (separator.intercalate parts)).Balanced := by
  have hjoined : text (separator.intercalate parts) = joined separator (parts.map text) := by
    simp [joined, text, Scope.allValues, Function.comp_def]
  rw [hjoined]
  refine .joined hsep fun f hf => ?_
  obtain ⟨part, hpart, rfl⟩ := List.mem_map.1 hf
  exact h part hpart

/-! ### Fragments in fragments -/

/-- Whether a fragment stands in another one, behind a balanced fragment with `n` values. -/
def Within (p f : Fragment) (n : Nat) : Prop :=
  ∃ front back : Fragment, front.Balanced ∧ front.values.length = n ∧ f = front ++ (p ++ back)

theorem within_empty (f : Fragment) : empty.Within f 0 :=
  ⟨empty, f, balanced_empty, rfl, by rw [empty_append, empty_append]⟩

theorem within_self (p : Fragment) : p.Within p 0 :=
  ⟨empty, empty, balanced_empty, rfl, by rw [empty_append, append_empty]⟩

theorem Within.append_right {p f : Fragment} {n : Nat} (h : p.Within f n) (back : Fragment) :
    p.Within (f ++ back) n := by
  obtain ⟨front, back', hfront, hn, rfl⟩ := h
  exact ⟨front, back' ++ back, hfront, hn, by rw [append_assoc, append_assoc]⟩

theorem Within.append_left {p f : Fragment} {n : Nat} (h : p.Within f n) {front : Fragment}
    (hfront : front.Balanced) : p.Within (front ++ f) (front.values.length + n) := by
  obtain ⟨front', back, hfront', rfl, rfl⟩ := h
  refine ⟨front ++ front', back, hfront.append hfront', ?_, (append_assoc _ _ _).symm⟩
  rw [values_append, List.length_append]

theorem Within.trans {p q f : Fragment} {m n : Nat} (hp : p.Within q m) (hq : q.Within f n) :
    p.Within f (n + m) := by
  obtain ⟨front, back, hfront, rfl, rfl⟩ := hq
  exact (hp.append_right back).append_left hfront

/-- A member of a joined list stands behind the values of the members before it. -/
theorem within_joined {separator : String} (hsep : (text separator).Balanced)
    {as bs : List Fragment} (has : ∀ a ∈ as, a.Balanced) (p : Fragment) :
    p.Within (joined separator (as ++ p :: bs)) (Scope.allValues as).length := by
  induction as with
  | nil =>
    cases bs with
    | nil =>
      rw [List.nil_append, joined_singleton]
      exact within_self p
    | cons b bs =>
      rw [List.nil_append, joined_cons_cons, append_assoc]
      exact (within_self p).append_right _
  | cons a as ih =>
    have hin := ih fun b hb => has b (List.mem_cons_of_mem _ hb)
    have hfront := (has a List.mem_cons_self).append hsep
    have hstep : joined separator (a :: as ++ p :: bs) =
        a ++ text separator ++ joined separator (as ++ p :: bs) := by
      cases as <;> exact joined_cons_cons ..
    rw [hstep]
    simpa [Scope.allValues, text, Nat.add_assoc] using hin.append_left hfront

theorem exists_within_joined {separator : String} (hsep : (text separator).Balanced)
    {fs : List Fragment} (h : ∀ f ∈ fs, f.Balanced) {p : Fragment} (hp : p ∈ fs) :
    ∃ n, p.Within (joined separator fs) n := by
  obtain ⟨as, bs, rfl⟩ := List.append_of_mem hp
  exact ⟨_, within_joined hsep (fun a ha => h a (List.mem_append_left _ ha)) p⟩

/-- A balanced fragment is carried where it stands. -/
theorem Within.carries {p f : Fragment} {n : Nat} (h : p.Within f n) (hp : p.Balanced) :
    f.Carries p n := by
  obtain ⟨front, back, hfront, rfl, rfl⟩ := h
  refine ⟨hp.placeholderCount_eq, front.sql, back.sql, by simp [String.append_assoc],
    fun k hk => ?_, fun j o ho => ?_⟩
  · rw [values_append, values_append, List.getElem?_append_right (Nat.le_add_right _ _),
      Nat.add_sub_cancel_left, List.getElem?_append_left hk]
  · have hstart : o < front.sql.toList.length ↔ j < front.values.length := by
      rw [← hfront.count]
      refine @lt_length_iff_of_getElem? _ (p ++ back).sql.toList j o ?_
      rw [← String.toList_append, String.ofList_toList]
      exact ho
    have hend : o < (front ++ p).sql.toList.length ↔ j < (front ++ p).values.length := by
      rw [← (hfront.append hp).count]
      refine @lt_length_iff_of_getElem? _ back.sql.toList j o ?_
      rw [← String.toList_append, String.ofList_toList, ← sql_append, append_assoc]
      exact ho
    simp only [sql_append, String.toList_append, values_append, List.length_append,
      String.length_toList] at hstart hend
    omega

/-- A fragment without text is carried anywhere if it has no values. -/
theorem carries_empty (f : Fragment) (n : Nat) : f.Carries empty n := by
  refine ⟨balanced_empty.placeholderCount_eq, "", f.sql, by simp [empty],
    fun k hk => absurd hk (Nat.not_lt_zero k), fun j o _ => ?_⟩
  simp only [empty, String.length_empty, List.length_nil]
  omega

end Fragment

end BoundQuery
