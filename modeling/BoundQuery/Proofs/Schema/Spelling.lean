import BoundQuery.Proofs.Schema.History
import BoundQuery.Proofs.Text.Upper

/-!
# Tables of a document through the cache

A document tells names apart that have one key in the cache: names that differ in case where it
defines both, and names with blanks around them.

* `Document.Unambiguous` : no two names of the document differ only in the case of ASCII letters;
* `lowerAscii_eq_of_key_eq` : plain names with one key differ only in that;
* `Resolver.resolve_document` : **a table is resolved as the document gives it, for the same name or,
  out of the cache, for the one by which it came, which has the same key.**  So the cache shows only
  where the document tells apart names of a run with one key; among plain names of an unambiguous
  document it does not show.

Two names that differ in case are the counterexample to the plain statement
(`Resolver.resolve_document_other_case`).
-/

namespace BoundQuery

open Text

/-! ### Names with one key -/

namespace Text

/-- Whether there are ASCII characters only, and no blanks around them. -/
def isPlain (s : String) : Bool := s.toList.all (fun c => c.toNat < 128) && trim s = s

theorem upper_append (s t : String) : upper (s ++ t) = upper s ++ upper t := by
  simp only [upper, String.toList_append, List.flatMap_append, String.ofList_append]

theorem upper_of_ascii {s : String} (h : ∀ c ∈ s.toList, c.toNat < 128) :
    upper s = s.map Char.toUpper := by
  apply String.toList_injective
  rw [upper, String.toList_ofList, String.toList_map, List.map_eq_flatMap]
  exact List.flatMap_congr fun c hc => if_pos (h c hc)

/-- The upper-case form of an ASCII text has the same lower-case form. -/
theorem lowerAscii_upper {s : String} (h : ∀ c ∈ s.toList, c.toNat < 128) :
    lowerAscii (upper s) = lowerAscii s := by
  apply String.toList_injective
  rw [upper_of_ascii h, lowerAscii, lowerAscii, String.toList_map, String.toList_map,
    String.toList_map, List.map_map]
  refine List.map_congr_left fun c hc => of_decide_eq_true ?_
  exact of_ascii (p := fun c => c.toUpper.toLower = c.toLower) (by decide +kernel) (h c hc)

end Text

theorem TableCache.key_eq_iff {space a b : String} :
    key space a = key space b ↔ upper (trim a) = upper (trim b) := by
  simp only [key, upper_append, String.append_right_inj]

/-- Plain names with one key differ only in the case of their letters. -/
theorem lowerAscii_eq_of_key_eq {space a b : String} (ha : isPlain a = true)
    (hb : isPlain b = true) (h : TableCache.key space a = TableCache.key space b) :
    lowerAscii a = lowerAscii b := by
  simp only [isPlain, Bool.and_eq_true, List.all_eq_true, decide_eq_true_eq] at ha hb
  rw [TableCache.key_eq_iff, ha.2, hb.2] at h
  rw [← lowerAscii_upper ha.1, h, lowerAscii_upper hb.1]

/-! ### Documents -/

namespace Document

/-- No two names differ only in the case of ASCII letters. -/
def Unambiguous (d : Document) : Prop :=
  ∀ a ∈ d.tables, ∀ b ∈ d.tables, lowerAscii a.1 = lowerAscii b.1 → a.1 = b.1

theorem definitions?_eq {d : Document} (h : d.Unambiguous) (name : String) :
    d.definitions? name =
      (d.tables.find? fun e => lowerAscii e.1 = lowerAscii name).map Prod.snd := by
  unfold definitions?
  cases hget : d.tables.get? name with
  | none => rfl
  | some definitions =>
    rw [Keyed.get?_eq_find?] at hget
    obtain ⟨e, hfind, -⟩ := Option.map_eq_some_iff.1 hget
    have hmem := List.mem_of_find?_eq_some hfind
    have hname : e.1 = name := by simpa using List.find?_some hfind
    have hsame : ∀ x ∈ d.tables, decide (lowerAscii x.1 = lowerAscii name) = decide (x.1 = name) := by
      intro x hx
      rw [decide_eq_decide, ← hname]
      exact ⟨h x hx e hmem, fun hx => by rw [hx]⟩
    rw [← List.head?_filter, List.filter_congr hsame, List.head?_filter, hget]

/-- An unambiguous document has one table for names that differ only in case. -/
theorem table_eq_ok (d : Document) (h : d.Unambiguous) {a b : String}
    (hab : lowerAscii a = lowerAscii b) {t : Table} (ha : d.table a = .ok t) : d.table b = .ok t := by
  unfold table at ha ⊢
  rw [definitions?_eq h, hab, ← definitions?_eq h] at ha
  cases hb : d.definitions? b with
  | none => rw [hb] at ha; cases ha
  | some definitions =>
    rw [hb] at ha
    exact ha

end Document

/-! ### Runs -/

namespace Resolver

/-- A table is given as what is behind the cache gives it, or out of the cache. -/
theorem resolve_eq_or_fresh {ε : Type} (r : Resolver) (ask : String → Except ε Table)
    (table : String) (refresh : Bool) :
    (r.resolve ask table refresh).1 = ask table ∨
      refresh = false ∧ ∃ e, r.cache.fresh? (r.key table) = some e ∧
        (r.resolve ask table refresh).1 = .ok e.table := by
  have hresolves := r.resolves ask table refresh
  generalize r.resolve ask table refresh = p at hresolves
  cases hresolves with
  | found hfresh => exact .inr ⟨rfl, _, hfresh, rfl⟩
  | came _ hask | failed _ hask => exact .inl hask.symm

/-- **A table is resolved as the document gives it, for the same name or, without a refresh, for the
name with the same key by which the last table came, while that is fresh.**  A fault is always that
of the same name.  So the cache does not show where the document gives one table for all names of
a run with one key, as an unambiguous one does for plain names. -/
theorem resolve_document (d : Document) (space : String) (ttl : Nat) (qs : List Request)
    (table : String) (refresh : Bool) :
    let r := (empty space ttl).after (fun _ => d.table) qs
    let visits := (empty space ttl).visits (fun _ => d.table) qs
    let answer := (r.resolve d.table table refresh).1
    (∃ name, answer = d.table name ∧ (name = table ∨ refresh = false ∧ ∃ t moment,
      Visit.latest? space (TableCache.key space table) visits = some (.filled name t moment) ∧
      r.cache.now < moment + ttl ∧ TableCache.key space name = TableCache.key space table ∧
      ∃ fetch, Request.resolve name fetch ∈ qs)) ∧
    (∀ fault, answer = .error fault → d.table table = .error fault) ∧
    ((∀ name fetch, Request.resolve name fetch ∈ qs →
        TableCache.key space name = TableCache.key space table →
        ∀ t, d.table name = .ok t → d.table table = .ok t) → answer = d.table table) ∧
    (d.Unambiguous → isPlain table = true →
      (∀ name fetch, Request.resolve name fetch ∈ qs → isPlain name = true) →
      answer = d.table table) := by
  intro r visits answer
  have hspace : r.space = space := ((empty space ttl).balances_after qs).space
  obtain hsame | ⟨rfl, e, hfresh, hfound⟩ := r.resolve_eq_or_fresh d.table table refresh
  · refine ⟨⟨table, hsame, .inl rfl⟩, fun fault hfault => hsame ▸ hfault, fun _ => hsame,
      fun _ _ _ => hsame⟩
  rw [Resolver.key, hspace] at hfresh
  obtain ⟨name, t, moment, hlatest, hnow, rfl⟩ := fresh?_after_eq_some_iff.1 hfresh
  obtain ⟨hkey, ⟨fetch, hmem⟩, -, hcame⟩ := exists_resolve_of_latest? hlatest
  refine ⟨⟨name, hfound.trans hcame.symm, .inr ⟨rfl, t, moment, hlatest, hnow, hkey, fetch, hmem⟩⟩,
    fun fault hfault => absurd (hfound.symm.trans hfault) (by rintro ⟨⟩),
    fun halike => hfound.trans (halike name fetch hmem hkey t hcame).symm,
    fun hd htable hqs => hfound.trans ?_⟩
  exact (d.table_eq_ok hd (lowerAscii_eq_of_key_eq (hqs name fetch hmem) htable hkey) hcame).symm

/-- A plain name in another case is one name for the document and for the cache. -/
theorem resolve_document_plain :
    (((empty "x" 1000).after (fun _ => Document.table ⟨[("ORDERS", [⟨"ID", "INTEGER"⟩])]⟩)
      [.resolve "ORDERS" false]).resolve (Document.table ⟨[("ORDERS", [⟨"ID", "INTEGER"⟩])]⟩)
        "orders" false).1 = Document.table ⟨[("ORDERS", [⟨"ID", "INTEGER"⟩])]⟩ "orders" := by
  have hd : Document.Unambiguous ⟨[("ORDERS", [⟨"ID", "INTEGER"⟩])]⟩ := by
    intro a ha b hb _
    rw [List.mem_singleton.1 ha, List.mem_singleton.1 hb]
  refine (resolve_document _ "x" 1000 [.resolve "ORDERS" false] "orders" false).2.2.2 hd
    (by decide +kernel) fun name fetch hmem => ?_
  obtain ⟨rfl, -⟩ := Request.resolve.inj (List.mem_singleton.1 hmem)
  decide +kernel

/-- A document with two names that differ in case only. -/
def twoCases : Document :=
  ⟨[("ORDERS", [⟨"ID", "INTEGER"⟩]), ("orders", [⟨"SKU", "VARCHAR(9)"⟩])]⟩

/-- The second name is answered with the table of the first, which the cache keeps. -/
theorem resolve_document_other_case :
    ¬ ∀ (d : Document) (space : String) (ttl : Nat) (qs : List Request) (table : String)
      (refresh : Bool),
      (((empty space ttl).after (fun _ => d.table) qs).resolve d.table table refresh).1 =
        d.table table := by
  intro h
  have hkept : (((empty "x" 1000).after (fun _ => twoCases.table)
      [.resolve "ORDERS" false]).resolve twoCases.table "orders" false).1 =
        .ok (.ofColumns [("ID", "INTEGER")]) := by decide +kernel
  have htable : twoCases.table "orders" = .ok (.ofColumns [("SKU", "VARCHAR(9)")]) := by
    decide +kernel
  have hthrough := h twoCases "x" 1000 [.resolve "ORDERS" false] "orders" false
  have hsame := hkept.symm.trans (hthrough.trans htable)
  exact absurd (Except.ok.inj hsame) (by decide)

end Resolver

end BoundQuery
