/-!
# Entries in the order of their keys

A `Keyed α` maps texts to values. Every operation that adds an entry puts it in its place in the
order of code points, so two maps with the same entries built that way are the same list.

* `Keyed.get?`, `Keyed.insert`, `Keyed.erase`: the operations on one key.
* `Keyed.ofList`: the map of a list of entries, where a later entry replaces an earlier one.
* `get?_insert`, `get?_erase`: what a look-up sees after a change.
* `get?_ofList`: a look-up in the map of a list finds the last entry with the key.
* `Keyed.Ordered`: the order of the keys. Every map that `ofList` makes has it, and of a list that
  has it `ofList` makes the list itself.
-/

namespace BoundQuery

/-- Entries in ascending order of their keys, each key once. -/
abbrev Keyed (α : Type) := List (String × α)

namespace Keyed

variable {α : Type}

/-- The value under a key. -/
def get? (key : String) : Keyed α → Option α
  | [] => none
  | (k, v) :: rest => if k = key then some v else get? key rest

/-- The map with `value` under `key`, in place of what was there. -/
def insert (key : String) (value : α) : Keyed α → Keyed α
  | [] => [(key, value)]
  | (k, v) :: rest =>
    if k = key then (key, value) :: rest
    else if key < k then (key, value) :: (k, v) :: rest
    else (k, v) :: insert key value rest

/-- The map without the key. -/
def erase (key : String) : Keyed α → Keyed α
  | [] => []
  | (k, v) :: rest => if k = key then erase key rest else (k, v) :: erase key rest

/-- All entries of `added` put into `base`, one after the other. -/
def merge (base added : Keyed α) : Keyed α :=
  added.foldl (fun m entry => m.insert entry.1 entry.2) base

/-- The map of a list of entries; of two entries with one key the later counts. -/
def ofList (entries : List (String × α)) : Keyed α := merge [] entries

/-- The keys in ascending order. -/
def keys (m : Keyed α) : List String := m.map Prod.fst

theorem get?_eq_find? (key : String) (m : Keyed α) :
    m.get? key = (m.find? fun e => e.1 = key).map Prod.snd := by
  induction m with
  | nil => rfl
  | cons e rest ih =>
    rw [get?, List.find?_cons]
    split
    next h => rw [decide_eq_true h]; rfl
    next h => rw [decide_eq_false h, ih]

@[simp] theorem get?_insert_self (key : String) (value : α) (m : Keyed α) :
    (m.insert key value).get? key = some value := by
  induction m with
  | nil => simp [insert, get?]
  | cons e rest ih => grind [insert, get?]

theorem get?_insert_of_ne {key other : String} (value : α) (m : Keyed α) (h : other ≠ key) :
    (m.insert key value).get? other = m.get? other := by
  induction m with
  | nil => simp [insert, get?, Ne.symm h]
  | cons e rest ih => grind [insert, get?]

theorem get?_insert (key other : String) (value : α) (m : Keyed α) :
    (m.insert key value).get? other = if other = key then some value else m.get? other := by
  by_cases h : other = key
  · subst h; simp
  · simp [h, get?_insert_of_ne]

theorem get?_erase (key other : String) (m : Keyed α) :
    (m.erase key).get? other = if other = key then none else m.get? other := by
  induction m with
  | nil => simp [erase, get?]
  | cons e rest ih => grind [erase, get?]

/-- Later entries are put into the map of the earlier ones. -/
theorem ofList_append (xs ys : List (String × α)) : ofList (xs ++ ys) = merge (ofList xs) ys :=
  List.foldl_append

/-- Of the entries that are put in, the last one with the key counts, and else what was there. -/
theorem get?_merge (key : String) (base : Keyed α) (added : List (String × α)) :
    (base.merge added).get? key =
      ((added.reverse.find? fun e => e.1 = key).map Prod.snd).or (base.get? key) := by
  induction added generalizing base with
  | nil => rfl
  | cons e rest ih =>
    rw [merge, List.foldl_cons, ← merge, ih, get?_insert, List.reverse_cons, List.find?_append,
      Option.map_or, Option.or_assoc]
    by_cases h : key = e.1
    · simp [h]
    · simp [h, Ne.symm h]

/-- A look-up in the map of a list finds the last entry with the key. -/
theorem get?_ofList (key : String) (entries : List (String × α)) :
    (ofList entries).get? key = (entries.reverse.find? fun e => e.1 = key).map Prod.snd := by
  rw [ofList, get?_merge, get?, Option.or_none]

theorem mem_keys_iff {key : String} {m : Keyed α} : key ∈ m.keys ↔ (m.get? key).isSome := by
  rw [get?_eq_find?, Option.isSome_map, List.find?_isSome]
  simp [keys]

theorem mem_keys_ofList {key : String} {entries : List (String × α)} :
    key ∈ (ofList entries).keys ↔ ∃ e ∈ entries, e.1 = key := by
  rw [mem_keys_iff, get?_ofList, Option.isSome_map, List.find?_isSome]
  simp

/-! ### The order of the keys -/

/-- Every key stands before the greater ones, and so only once. -/
def Ordered (m : Keyed α) : Prop := m.Pairwise fun e e' => e.1 < e'.1

theorem eq_or_mem_of_mem_insert {key : String} {value : α} {m : Keyed α} {e : String × α}
    (h : e ∈ m.insert key value) : e = (key, value) ∨ e ∈ m := by
  induction m with
  | nil => exact .inl (List.mem_singleton.1 h)
  | cons e' rest ih => grind [insert]

theorem Ordered.insert {m : Keyed α} (h : m.Ordered) (key : String) (value : α) :
    (m.insert key value).Ordered := by
  induction m with
  | nil => exact List.pairwise_singleton ..
  | cons e rest ih =>
    obtain ⟨hfirst, hrest⟩ := List.pairwise_cons.1 h
    rw [Keyed.insert]
    split
    next heq => exact List.pairwise_cons.2 ⟨heq ▸ hfirst, hrest⟩
    next hne =>
      split
      next hlt =>
        refine List.pairwise_cons.2 ⟨fun e' he' => ?_, h⟩
        rcases List.mem_cons.1 he' with rfl | he'
        · exact hlt
        · exact String.lt_trans hlt (hfirst e' he')
      next hnlt =>
        have hlt : e.1 < key := by
          refine Classical.byContradiction fun hn => hne ?_
          exact String.le_antisymm (String.not_lt.1 hnlt) (String.not_lt.1 hn)
        refine List.pairwise_cons.2 ⟨fun e' he' => ?_, ih hrest⟩
        rcases eq_or_mem_of_mem_insert he' with rfl | he'
        · exact hlt
        · exact hfirst e' he'

theorem Ordered.merge {base : Keyed α} (h : base.Ordered) (added : List (String × α)) :
    (base.merge added).Ordered := by
  induction added generalizing base with
  | nil => exact h
  | cons e rest ih => exact ih (h.insert e.1 e.2)

theorem ordered_ofList (entries : List (String × α)) : (ofList entries).Ordered :=
  Ordered.merge .nil entries

theorem mem_of_mem_merge {base : Keyed α} {added : List (String × α)} {e : String × α}
    (h : e ∈ base.merge added) : e ∈ base ∨ e ∈ added := by
  induction added generalizing base with
  | nil => exact .inl h
  | cons e' rest ih =>
    rcases ih h with h | h
    · exact (eq_or_mem_of_mem_insert h).symm.imp_right fun h => List.mem_cons.2 (.inl h)
    · exact .inr (List.mem_cons_of_mem e' h)

theorem mem_of_mem_ofList {entries : List (String × α)} {e : String × α}
    (h : e ∈ ofList entries) : e ∈ entries :=
  (mem_of_mem_merge h).resolve_left List.not_mem_nil

/-- A key that is greater than all others goes to the end. -/
theorem insert_eq_append {key : String} {m : Keyed α} (h : ∀ e ∈ m, e.1 < key) (value : α) :
    m.insert key value = m ++ [(key, value)] := by
  induction m with
  | nil => rfl
  | cons e rest ih =>
    obtain ⟨hlt, hrest⟩ := List.forall_mem_cons.1 h
    have hne : e.1 ≠ key := fun heq => String.lt_irrefl key (heq ▸ hlt)
    rw [insert, if_neg hne, if_neg (String.lt_asymm hlt), ih hrest, List.cons_append]

theorem merge_eq_append {base added : Keyed α} (h : Ordered (base ++ added)) :
    base.merge added = base ++ added := by
  induction added generalizing base with
  | nil => exact (List.append_nil base).symm
  | cons e rest ih =>
    have hbase : ∀ e' ∈ base, e'.1 < e.1 := fun e' he' =>
      (List.pairwise_append.1 h).2.2 e' he' e List.mem_cons_self
    have hsplit : base ++ e :: rest = base.insert e.1 e.2 ++ rest := by
      rw [insert_eq_append hbase, List.append_assoc, List.singleton_append]
    rw [hsplit] at h ⊢
    exact ih h

/-- Entries that are in order already are their own map. -/
theorem Ordered.ofList_eq {m : Keyed α} (h : m.Ordered) : ofList m = m := merge_eq_append h

end Keyed

end BoundQuery
