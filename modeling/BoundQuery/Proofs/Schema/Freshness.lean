import BoundQuery.Proofs.Schema.History

/-!
# When a table is given without asking

* `Resolver.calls_resolve_iff` : a table is given without asking exactly if a look-up finds one;
* `Resolver.fresh?_after_elsewhere` : requests about other keys make no difference for that;
* `Resolver.resolve_fresh_iff` : **a table is given without asking exactly while the last mark of
  its key is a table that has not expired, and it is that table.**  A table that does not come
  leaves nothing behind, and the counts add up.
-/

namespace BoundQuery

theorem TableCache.get_fst (c : TableCache) (key : String) :
    (c.get key).1 = (c.fresh? key).map CacheEntry.table := by
  cases h : c.fresh? key with
  | some e =>
    rw [TableCache.get_of_fresh h]
    rfl
  | none =>
    obtain ⟨c', hget, -, -⟩ := TableCache.get_of_stale h
    rw [hget]
    rfl

namespace Resolver

variable {ε : Type} {inner : Nat → String → Except ε Table} {r : Resolver}

/-! ### Steps -/

/-- A table is given without asking exactly if a fresh one is found. -/
theorem calls_resolve_iff {ask : String → Except ε Table} {table : String} :
    (r.resolve ask table false).2.calls = r.calls ↔
      ∃ e, r.cache.fresh? (r.key table) = some e := by
  have hresolves := r.resolves ask table false
  generalize r.resolve ask table false = p at hresolves
  cases hresolves with
  | found hfresh => exact iff_of_true rfl ⟨_, hfresh⟩
  | came hasks | failed hasks =>
    have hnone := hasks.stale.resolve_left Bool.false_ne_true
    exact iff_of_false (Nat.succ_ne_self _) fun ⟨_, he⟩ => nomatch hnone.symm.trans he

theorem resolve_of_fresh {ask : String → Except ε Table} {table : String} {e : CacheEntry}
    (h : r.cache.fresh? (r.key table) = some e) :
    (r.resolve ask table false).1 = .ok e.table := by
  simp only [resolve, TableCache.get_of_fresh h, Bool.false_eq_true, if_false]

/-- A table that is asked for and does not come leaves nothing under its key, and all other keys
alone. -/
theorem entries_of_error {ask : String → Except ε Table} {table : String} {refresh : Bool}
    {fault : ε} (hasked : (r.resolve ask table refresh).2.calls ≠ r.calls)
    (hask : ask table = .error fault) (k : String) :
    (r.resolve ask table refresh).2.cache.entries.get? k =
      if k = r.key table then none else r.cache.entries.get? k := by
  have hresolves := r.resolves ask table refresh
  generalize r.resolve ask table refresh = p at hasked hresolves
  cases hresolves with
  | found hfresh => exact absurd rfl hasked
  | came _ hcame => cases hcame.symm.trans hask
  | failed hasks => exact hasks.drops.get? k

/-! ### Runs -/

/-- Requests about other keys, while no time passes, leave what is found under a key. -/
theorem fresh?_after_elsewhere {key : String} {others : List Request}
    (h : ∀ q ∈ others, q.isAbout r.space key = false ∧ q.millis = 0) :
    (r.after inner others).cache.fresh? key = r.cache.fresh? key := by
  have hbalances : Balances (r.visits inner others) others r (r.after inner others) :=
    r.balances_after others
  have hmillis : (others.map Request.millis).sum = 0 :=
    List.sum_eq_zero_iff_forall_eq_nat.2 (List.forall_mem_map.2 fun q hq => (h q hq).2)
  have hnow : (r.after inner others).cache.now = r.cache.now := by
    rw [hbalances.now, hmillis, Nat.add_zero]
  have hnone : (r.visits inner others).filter (fun v => v.request.isAbout r.space key) = [] := by
    rw [List.filter_eq_nil_iff]
    intro v hv
    obtain ⟨q, hq, r', rfl⟩ := exists_of_mem_visits hv
    exact Bool.eq_false_iff.1 (h q hq).1
  rw [hbalances.fresh?, Visit.latest?, hnone, hnow]
  exact r.cache.filter_fresh? key

/-- **A table is given without asking exactly if the last mark of its key is a table that is still
fresh, and then it is that table.**  Requests about other keys make no difference, a table that does
not come leaves nothing behind, a look-up is a hit or a miss, and what is behind the cache is asked
at each miss and each refresh. -/
theorem resolve_fresh_iff (inner : Nat → String → Except ε Table) (space : String) (ttl : Nat)
    (qs : List Request) :
    let r := (empty space ttl).after inner qs
    let visits := (empty space ttl).visits inner qs
    (∀ table,
      ((r.resolve (inner r.calls) table false).2.calls = r.calls ↔
        ∃ name t moment, Visit.latest? space (TableCache.key space table) visits =
          some (.filled name t moment) ∧ r.cache.now < moment + ttl) ∧
      ∀ name t moment, Visit.latest? space (TableCache.key space table) visits =
          some (.filled name t moment) → r.cache.now < moment + ttl →
        (r.resolve (inner r.calls) table false).1 = .ok t) ∧
    (∀ key others, (∀ q ∈ others, q.isAbout space key = false ∧ q.millis = 0) →
      ((r.after inner others).cache.get key).1 = (r.cache.get key).1) ∧
    (∀ table refresh fault, (r.resolve (inner r.calls) table refresh).2.calls ≠ r.calls →
      inner r.calls table = .error fault →
        ∀ k, (r.resolve (inner r.calls) table refresh).2.cache.entries.get? k =
          if k = TableCache.key space table then none else r.cache.entries.get? k) ∧
    r.cache.now = (qs.map Request.millis).sum ∧
    r.cache.hits + r.cache.misses = qs.countP Request.isLookup ∧
    r.calls = r.cache.misses + qs.countP Request.isRefresh := by
  intro r visits
  have hbalances : Balances visits qs (empty space ttl) r := (empty space ttl).balances_after qs
  have hspace : r.space = space := hbalances.space
  have hkey : ∀ table, r.key table = TableCache.key space table := fun table => by
    rw [key, hspace]
  refine ⟨fun table => ⟨?_, fun name t moment hlatest hnow => ?_⟩, fun key others h => ?_,
    fun table refresh fault hasked hask k => ?_, ?_, ?_, ?_⟩
  · rw [calls_resolve_iff, hkey]
    constructor
    · rintro ⟨e, he⟩
      obtain ⟨name, t, moment, hlatest, hnow, -⟩ := fresh?_after_eq_some_iff.1 he
      exact ⟨name, t, moment, hlatest, hnow⟩
    · rintro ⟨name, t, moment, hlatest, hnow⟩
      exact ⟨_, fresh?_after_eq_some_iff.2 ⟨name, t, moment, hlatest, hnow, rfl⟩⟩
  · exact resolve_of_fresh (e := ⟨t, moment + ttl⟩)
      (hkey table ▸ fresh?_after_eq_some_iff.2 ⟨name, t, moment, hlatest, hnow, rfl⟩)
  · rw [TableCache.get_fst, TableCache.get_fst, fresh?_after_elsewhere (hspace.symm ▸ h)]
  · rw [entries_of_error hasked hask, hkey]
  · exact hbalances.now.trans (Nat.zero_add _)
  · exact hbalances.lookups.trans (Nat.zero_add _)
  · exact hbalances.calls.trans (congrArg (· + _) (Nat.zero_add _))

end Resolver

end BoundQuery
