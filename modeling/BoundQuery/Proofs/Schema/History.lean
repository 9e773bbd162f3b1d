import BoundQuery.Schema.Cache
import Mathlib.Algebra.GroupWithZero.Nat

/-!
# The history of a resolver

What a resolver keeps is settled by what was asked of it, and what it was told.

* `TableCache.fresh?` : the entry under a key that a look-up finds, and what each operation of the
  cache does to it;
* `Request`, `Visit` : a step of a run, and what can be seen of it;
* `Resolver.after`, `Resolver.visits` : the resolver after a run, and the visits of the run;
* `Mark` : what a visit leaves under its key; `Visit.latest?` : the last mark of a key;
* `Resolver.balances_after` : **after every run, the entry that a look-up finds under a key is the
  one of the last mark of the key, until it expires**, and the counts are those of the run.

What is behind the resolver may answer differently each time: `inner n` is how it answers when it
has been asked `n` times before.
-/

namespace BoundQuery

/-! ### Entries that a look-up finds -/

/-- Whether the entry is fresh at the given moment. -/
def CacheEntry.freshAt (now : Nat) (e : CacheEntry) : Bool := now < e.expiresAt

/-- What is fresh later is fresh now. -/
theorem CacheEntry.filter_freshAt (o : Option CacheEntry) {now later : Nat} (h : now ≤ later) :
    (o.filter (freshAt now)).filter (freshAt later) = o.filter (freshAt later) := by
  rw [Option.filter_filter]
  congr 1
  funext e
  simp only [freshAt, ← Bool.decide_and, decide_eq_decide]
  omega

namespace TableCache

/-- The fresh entry under a key. -/
def fresh? (c : TableCache) (key : String) : Option CacheEntry :=
  (c.entries.get? key).filter (CacheEntry.freshAt c.now)

/-- One cache is the other without the entry under a key, up to its count of misses. -/
structure Drops (c : TableCache) (key : String) (c' : TableCache) : Prop where
  /-- The entries under all other keys are there. -/
  get? : ∀ k, c'.entries.get? k = if k = key then none else c.entries.get? k
  /-- Tables stay fresh for as long. -/
  ttl : c'.ttl = c.ttl
  /-- No time has passed. -/
  now : c'.now = c.now
  /-- Nothing was found. -/
  hits : c'.hits = c.hits

variable {c c' : TableCache} {key : String}

theorem get_of_fresh {e : CacheEntry} (h : c.fresh? key = some e) :
    c.get key = (some e.table, { c with hits := c.hits + 1 }) := by
  obtain ⟨hget, hfresh⟩ := Option.filter_eq_some_iff.1 h
  simp only [get, hget, if_pos (of_decide_eq_true hfresh)]

/-- A look-up that finds nothing fresh leaves nothing under the key. -/
theorem get_of_stale (h : c.fresh? key = none) :
    ∃ c', c.get key = (none, c') ∧ c.Drops key c' ∧ c'.misses = c.misses + 1 := by
  unfold get
  cases hget : c.entries.get? key with
  | none =>
    refine ⟨_, rfl, ⟨fun k => ?_, rfl, rfl, rfl⟩, rfl⟩
    split
    next hk => rw [hk, hget]
    next => rfl
  | some e =>
    have hstale : ¬ c.now < e.expiresAt := by simpa [fresh?, hget, CacheEntry.freshAt] using h
    exact ⟨_, if_neg hstale, ⟨fun k => Keyed.get?_erase key k c.entries, rfl, rfl, rfl⟩, rfl⟩

theorem drops_invalidate (c : TableCache) (key : String) : c.Drops key (c.invalidate key) :=
  ⟨fun k => Keyed.get?_erase key k c.entries, rfl, rfl, rfl⟩

theorem Drops.fresh? (h : c.Drops key c') (k : String) :
    c'.fresh? k = if k = key then none else c.fresh? k := by
  unfold TableCache.fresh?
  rw [h.get?, h.now]
  split <;> rfl

theorem fresh?_put (c : TableCache) (key k : String) (t : Table) :
    (c.put key t).fresh? k =
      if k = key then (some ⟨t, c.now + c.ttl⟩ : Option CacheEntry).filter (CacheEntry.freshAt c.now)
      else c.fresh? k := by
  unfold fresh? put
  rw [Keyed.get?_insert]
  split <;> rfl

theorem filter_fresh? (c : TableCache) (key : String) :
    (c.fresh? key).filter (CacheEntry.freshAt c.now) = c.fresh? key :=
  CacheEntry.filter_freshAt _ (Nat.le_refl _)

theorem fresh?_advance (c : TableCache) (key : String) (millis : Nat) :
    (c.advance millis).fresh? key =
      (c.fresh? key).filter (CacheEntry.freshAt (c.now + millis)) :=
  (CacheEntry.filter_freshAt _ (Nat.le_add_right _ _)).symm

end TableCache

/-! ### Requests -/

/-- What a resolver may be asked to do. -/
inductive Request where
  /-- To resolve a table, after a refresh or not. -/
  | resolve (table : String) (refresh : Bool)
  /-- To drop a table. -/
  | invalidate (table : String)
  /-- To let time pass. -/
  | advance (millis : Nat)
deriving DecidableEq

namespace Request

/-- How much time passes. -/
def millis : Request → Nat
  | .advance millis => millis
  | _ => 0

/-- The table that the request is about. -/
def table? : Request → Option String
  | .resolve table _ => some table
  | .invalidate table => some table
  | .advance _ => none

/-- Whether a table with the given key is resolved or dropped. -/
def isAbout (space key : String) (q : Request) : Bool :=
  q.table?.any fun table => key = TableCache.key space table

/-- Whether a table is looked up. -/
def isLookup : Request → Bool
  | .resolve _ refresh => !refresh
  | _ => false

/-- Whether a table is refreshed. -/
def isRefresh : Request → Bool
  | .resolve _ refresh => refresh
  | _ => false

end Request

/-! ### Visits -/

/-- What a step leaves under its key. -/
inductive Mark where
  /-- A table that was asked for by a name and came at a moment. -/
  | filled (name : String) (table : Table) (moment : Nat)
  /-- Nothing. -/
  | cleared
deriving DecidableEq

/-- The entry that the mark has left, if tables are fresh for `ttl`. -/
def Mark.entry? (ttl : Nat) : Mark → Option CacheEntry
  | .filled _ table moment => some ⟨table, moment + ttl⟩
  | .cleared => none

/-- What can be seen of a step. -/
structure Visit (ε : Type) where
  /-- What was asked for. -/
  request : Request
  /-- When it was. -/
  moment : Nat
  /-- The reply from behind the cache, if it was asked. -/
  reply : Option (Except ε Table)

namespace Visit

variable {ε : Type}

/-- The visit leaves a table that came, or nothing if it drops what is there and no table comes. -/
def mark? (v : Visit ε) : Option Mark :=
  match v.request, v.reply with
  | .resolve table _, some (.ok t) => some (.filled table t v.moment)
  | .resolve _ refresh, some (.error _) => if refresh then some .cleared else none
  | .invalidate _, _ => some .cleared
  | _, _ => none

/-- The last mark of a key, where the last visit comes first. -/
def latest? (space key : String) (vs : List (Visit ε)) : Option Mark :=
  (vs.filter fun v => v.request.isAbout space key).findSome? mark?

theorem latest?_append (space key : String) (vs ws : List (Visit ε)) :
    latest? space key (vs ++ ws) = (latest? space key vs).or (latest? space key ws) := by
  rw [latest?, List.filter_append, List.findSome?_append, latest?, latest?]

theorem latest?_singleton (space key : String) (v : Visit ε) :
    latest? space key [v] = if v.request.isAbout space key then v.mark? else none := by
  unfold latest?
  rw [List.filter_cons, List.filter_nil]
  split
  · rw [List.findSome?_singleton]
  · rfl

end Visit

namespace Resolver

variable {ε : Type} (inner : Nat → String → Except ε Table)

/-- The resolver after a request. -/
def next (r : Resolver) : Request → Resolver
  | .resolve table refresh => (r.resolve (inner r.calls) table refresh).2
  | .invalidate table => r.invalidate table
  | .advance millis => r.advance millis

/-- The resolver after a run. -/
def after (r : Resolver) : List Request → Resolver
  | [] => r
  | q :: qs => after (r.next inner q) qs

/-- The reply from behind the cache, if the request makes the resolver ask. -/
def reply? (r : Resolver) : Request → Option (Except ε Table)
  | .resolve table refresh =>
    if (r.resolve (inner r.calls) table refresh).2.calls = r.calls then none
    else some (inner r.calls table)
  | _ => none

/-- What can be seen of a request. -/
def visit (r : Resolver) (q : Request) : Visit ε := ⟨q, r.cache.now, r.reply? inner q⟩

/-- The visits of a run, the last one first. -/
def visits (r : Resolver) : List Request → List (Visit ε)
  | [] => []
  | q :: qs => visits (r.next inner q) qs ++ [r.visit inner q]

variable {inner}

/-! ### One step -/

/-- The table is asked for, and the cache is left without it. -/
structure Asks (r : Resolver) (table : String) (refresh : Bool) (c : TableCache) : Prop where
  /-- There is a reason to ask. -/
  stale : refresh = true ∨ r.cache.fresh? (r.key table) = none
  /-- There is nothing under the key. -/
  drops : r.cache.Drops (r.key table) c
  /-- A look-up is a miss. -/
  misses : c.misses = r.cache.misses + if refresh then 0 else 1

/-- The three ways in which a table is resolved. -/
inductive Resolves (r : Resolver) (ask : String → Except ε Table) (table : String) :
    Bool → Except ε Table × Resolver → Prop
  /-- A fresh one is found. -/
  | found {e : CacheEntry} (hfresh : r.cache.fresh? (r.key table) = some e) :
    Resolves r ask table false
      (.ok e.table, { r with cache := { r.cache with hits := r.cache.hits + 1 } })
  /-- It is asked for, and comes. -/
  | came {refresh : Bool} {c : TableCache} {t : Table} (hasks : r.Asks table refresh c)
    (hask : ask table = .ok t) :
    Resolves r ask table refresh (.ok t, ⟨r.space, c.put (r.key table) t, r.calls + 1⟩)
  /-- It is asked for, and does not come. -/
  | failed {refresh : Bool} {c : TableCache} {fault : ε} (hasks : r.Asks table refresh c)
    (hask : ask table = .error fault) :
    Resolves r ask table refresh (.error fault, ⟨r.space, c, r.calls + 1⟩)

theorem Asks.resolves {r : Resolver} {table : String} {refresh : Bool} {c : TableCache}
    (h : r.Asks table refresh c) (ask : String → Except ε Table) :
    r.Resolves ask table refresh (Resolver.ask { r with cache := c } ask table) := by
  unfold Resolver.ask
  cases hask : ask table with
  | ok t => exact .came h hask
  | error fault => exact .failed h hask

theorem resolves (r : Resolver) (ask : String → Except ε Table) (table : String) (refresh : Bool) :
    r.Resolves ask table refresh (r.resolve ask table refresh) := by
  cases refresh with
  | true => exact Asks.resolves ⟨.inl rfl, r.cache.drops_invalidate _, rfl⟩ ask
  | false =>
    cases hfresh : r.cache.fresh? (r.key table) with
    | some e =>
      simp only [resolve, TableCache.get_of_fresh hfresh, Bool.false_eq_true, if_false]
      exact .found hfresh
    | none =>
      obtain ⟨c, hget, hdrops, hmisses⟩ := TableCache.get_of_stale hfresh
      simp only [resolve, hget, Bool.false_eq_true, if_false]
      have hasks : r.Asks table false c := ⟨.inr hfresh, hdrops, hmisses⟩
      exact hasks.resolves ask

/-! ### Balances -/

/-- What a run adds to the books of a resolver. -/
structure Balances (vs : List (Visit ε)) (qs : List Request) (r r' : Resolver) : Prop where
  /-- The namespace stays. -/
  space : r'.space = r.space
  /-- Tables stay fresh for as long. -/
  ttl : r'.cache.ttl = r.cache.ttl
  /-- Time passes when it is let pass. -/
  now : r'.cache.now = r.cache.now + (qs.map Request.millis).sum
  /-- Each look-up is counted once. -/
  lookups : r'.cache.hits + r'.cache.misses =
    r.cache.hits + r.cache.misses + qs.countP Request.isLookup
  /-- A table is asked for when a look-up finds none, and to refresh it. -/
  calls : r'.calls + r.cache.misses = r.calls + r'.cache.misses + qs.countP Request.isRefresh
  /-- The last mark of a key is what a look-up finds, until it expires. -/
  fresh? : ∀ k, r'.cache.fresh? k =
    ((Visit.latest? r.space k vs).elim (r.cache.fresh? k) (Mark.entry? r.cache.ttl)).filter
      (CacheEntry.freshAt r'.cache.now)

theorem Balances.refl (r : Resolver) : Balances ([] : List (Visit ε)) [] r r :=
  ⟨rfl, rfl, rfl, rfl, rfl, fun k => (r.cache.filter_fresh? k).symm⟩

theorem Balances.trans {vs vs' : List (Visit ε)} {qs qs' : List Request} {r r' r'' : Resolver}
    (h : Balances vs qs r r') (h' : Balances vs' qs' r' r'') :
    Balances (vs' ++ vs) (qs ++ qs') r r'' where
  space := h'.space.trans h.space
  ttl := h'.ttl.trans h.ttl
  now := by rw [h'.now, h.now, List.map_append, List.sum_append, Nat.add_assoc]
  lookups := by rw [h'.lookups, h.lookups, List.countP_append, Nat.add_assoc]
  calls := by
    have := h.calls
    have := h'.calls
    rw [List.countP_append]
    omega
  fresh? k := by
    rw [h'.fresh?, h.ttl, h.space, Visit.latest?_append]
    cases Visit.latest? r.space k vs' with
    | some m => rfl
    | none =>
      -- No later mark: what the first part has left may only have expired since.
      rw [Option.none_or, Option.elim_none, h.fresh?, CacheEntry.filter_freshAt]
      exact h'.now ▸ Nat.le_add_right _ _

/-- Where a table is asked for, a miss is counted or it is a refresh. -/
theorem Asks.counts {r : Resolver} {table : String} {refresh : Bool} {c : TableCache}
    (h : r.Asks table refresh c) :
    c.hits + c.misses = r.cache.hits + r.cache.misses +
        [Request.resolve table refresh].countP Request.isLookup ∧
      r.calls + 1 + r.cache.misses = r.calls + c.misses +
        [Request.resolve table refresh].countP Request.isRefresh := by
  rw [h.drops.hits, h.misses]
  cases refresh with
  | true => exact ⟨rfl, Nat.add_right_comm _ 1 _⟩
  | false => exact ⟨rfl, by rw [Nat.add_assoc, Nat.add_comm 1]; rfl⟩

/-- The entry under a key after a single visit about a table. -/
theorem elim_latest? {v : Visit ε} {table : String} (h : v.request.table? = some table)
    (space k : String) (o : Option CacheEntry) (f : Mark → Option CacheEntry) :
    (Visit.latest? space k [v]).elim o f =
      if k = TableCache.key space table then v.mark?.elim o f else o := by
  simp only [Visit.latest?_singleton, Request.isAbout, h, Option.any_some, decide_eq_true_eq]
  split <;> rfl

theorem balances_resolve (r : Resolver) (table : String) (refresh : Bool) :
    Balances [r.visit inner (.resolve table refresh)] [.resolve table refresh] r
      (r.next inner (.resolve table refresh)) := by
  have hresolves := r.resolves (inner r.calls) table refresh
  -- Both the reply that is seen and the next resolver are read off the same call.
  simp only [visit, reply?, next]
  generalize r.resolve (inner r.calls) table refresh = p at hresolves
  cases hresolves with
  | found hfresh =>
    refine ⟨rfl, rfl, rfl, Nat.add_right_comm _ 1 _, rfl, fun k => ?_⟩
    rw [if_pos rfl, elim_latest? rfl]
    refine Eq.trans (r.cache.filter_fresh? k).symm ?_
    split <;> rfl
  | @came _ c t hasks hask =>
    rw [if_neg (Nat.succ_ne_self _), hask]
    refine ⟨rfl, hasks.drops.ttl, hasks.drops.now, hasks.counts.1, hasks.counts.2, fun k => ?_⟩
    have hnow : (c.put (r.key table) t).now = r.cache.now := hasks.drops.now
    rw [elim_latest? rfl, hnow, TableCache.fresh?_put, hasks.drops.fresh?, hasks.drops.ttl,
      hasks.drops.now, key]
    split
    · rfl
    · exact (r.cache.filter_fresh? k).symm
  | failed hasks hask =>
    rw [if_neg (Nat.succ_ne_self _), hask]
    refine ⟨rfl, hasks.drops.ttl, hasks.drops.now, hasks.counts.1, hasks.counts.2, fun k => ?_⟩
    dsimp only
    rw [elim_latest? rfl, hasks.drops.fresh?, hasks.drops.now, key]
    split
    next hk =>
      -- A refresh leaves the mark that clears the key.  A miss leaves none, but then there was
      -- nothing fresh under the key before.
      cases refresh with
      | true => rfl
      | false =>
        have hnone : r.cache.fresh? k = none := hk ▸ hasks.stale.resolve_left Bool.false_ne_true
        rw [hnone]
        rfl
    next => exact (r.cache.filter_fresh? k).symm

theorem balances_next (r : Resolver) (q : Request) :
    Balances [r.visit inner q] [q] r (r.next inner q) := by
  cases q with
  | advance millis => exact ⟨rfl, rfl, rfl, rfl, rfl, fun k => r.cache.fresh?_advance k millis⟩
  | invalidate table =>
    refine ⟨rfl, rfl, rfl, rfl, rfl, fun k => ?_⟩
    rw [elim_latest? rfl]
    refine ((r.cache.drops_invalidate _).fresh? k).trans ?_
    rw [key]
    split
    · rfl
    · exact (r.cache.filter_fresh? k).symm
  | resolve table refresh => exact r.balances_resolve table refresh

/-- After every run, what is kept and what was counted is what the visits have left. -/
theorem balances_after (r : Resolver) (qs : List Request) :
    Balances (r.visits inner qs) qs r (r.after inner qs) := by
  induction qs generalizing r with
  | nil => exact .refl r
  | cons q qs ih => exact (r.balances_next q).trans (ih _)

/-- Where nothing was kept at first, a fresh table is one that came in the run. -/
theorem fresh?_after_eq_some_iff {space : String} {ttl : Nat} {qs : List Request} {key : String}
    {e : CacheEntry} :
    ((empty space ttl).after inner qs).cache.fresh? key = some e ↔
      ∃ name t moment, Visit.latest? space key ((empty space ttl).visits inner qs) =
          some (.filled name t moment) ∧
        ((empty space ttl).after inner qs).cache.now < moment + ttl ∧ e = ⟨t, moment + ttl⟩ := by
  rw [((empty space ttl).balances_after qs).fresh?, Option.filter_eq_some_iff]
  change (Option.elim (Visit.latest? space key _) none (Mark.entry? ttl) = some e ∧ _) ↔ _
  cases Visit.latest? space key ((empty space ttl).visits inner qs) with
  | none => exact iff_of_false (fun h => nomatch h.1) (by rintro ⟨_, _, _, ⟨⟩, _⟩)
  | some m =>
    cases m with
    | cleared => exact iff_of_false (fun h => nomatch h.1) (by rintro ⟨_, _, _, ⟨⟩, _⟩)
    | filled name t moment =>
      constructor
      · rintro ⟨⟨⟩, hfresh⟩
        exact ⟨name, t, moment, rfl, of_decide_eq_true hfresh, rfl⟩
      · rintro ⟨_, _, _, ⟨⟩, hnow, rfl⟩
        exact ⟨rfl, decide_eq_true hnow⟩

/-! ### Where a mark comes from -/

theorem exists_of_mem_visits {r : Resolver} {qs : List Request} {v : Visit ε}
    (h : v ∈ r.visits inner qs) : ∃ q ∈ qs, ∃ r' : Resolver, v = r'.visit inner q := by
  induction qs generalizing r with
  | nil => cases h
  | cons q qs ih =>
    rcases List.mem_append.1 h with h | h
    · obtain ⟨q', hq', r', hv⟩ := ih h
      exact ⟨q', List.mem_cons_of_mem q hq', r', hv⟩
    · exact ⟨q, List.mem_cons_self, r, List.mem_singleton.1 h⟩

/-- A table that a visit leaves is one that came for the name that was asked for. -/
theorem eq_resolve_of_mark? {r : Resolver} {q : Request} {name : String} {t : Table} {moment : Nat}
    (h : (r.visit inner q).mark? = some (.filled name t moment)) :
    (∃ refresh, q = .resolve name refresh) ∧ inner r.calls name = .ok t := by
  unfold Visit.mark? at h
  split at h
  next table refresh t' hrequest hreply =>
    obtain ⟨rfl, rfl, -⟩ := Mark.filled.inj (Option.some.inj h)
    obtain rfl : q = .resolve table refresh := hrequest
    simp only [visit, reply?] at hreply
    split at hreply
    · cases hreply
    · exact ⟨⟨refresh, rfl⟩, Option.some.inj hreply⟩
  next =>
    split at h
    · cases h
    · cases h
  next => cases h
  next => cases h

/-- The last table of a key came in the run, for a name with the key. -/
theorem exists_resolve_of_latest? {r : Resolver} {qs : List Request} {space key name : String}
    {t : Table} {moment : Nat}
    (h : Visit.latest? space key (r.visits inner qs) = some (.filled name t moment)) :
    TableCache.key space name = key ∧ (∃ refresh, Request.resolve name refresh ∈ qs) ∧
      ∃ n, inner n name = .ok t := by
  obtain ⟨v, hv, hmark⟩ := List.exists_of_findSome?_eq_some h
  obtain ⟨hmem, habout⟩ := List.mem_filter.1 hv
  obtain ⟨q, hq, r', rfl⟩ := exists_of_mem_visits hmem
  obtain ⟨⟨refresh, rfl⟩, hcame⟩ := eq_resolve_of_mark? hmark
  simp only [visit, Request.isAbout, Request.table?, Option.any_some, decide_eq_true_eq] at habout
  exact ⟨habout.symm, ⟨refresh, hq⟩, _, hcame⟩

end Resolver

end BoundQuery
