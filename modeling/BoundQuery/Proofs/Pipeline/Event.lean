import BoundQuery.Pipeline.Run

/-!
# Calls and their answers

A run notes the calls that it makes, and a store answers a call by its state alone.  So the answers
can be read off the calls: an `Event` is a call with whether it succeeded.

* `Store.events` : the events of calls that are made one after the other from a state on;
* `Runner.Reaches` : the calls between two points of a run, where the state is the one that the
  calls lead to;
* `Runner.Reaches.trans` : a run is put together from its parts.
-/

namespace BoundQuery

/-- A call and whether it succeeded. -/
structure Event where
  /-- The call. -/
  call : Call
  /-- Whether it succeeded. -/
  succeeded : Bool
deriving DecidableEq

variable {σ : Type}

/-! ### Stores -/

namespace Store

variable (S : Store σ)

/-- Whether a call succeeds in a state, and the state after it. -/
def reply (state : σ) : Call → Bool × σ
  | .begin => ((S.begin state).1.isOk, (S.begin state).2)
  | .execute sql values limit =>
    ((S.execute state sql values limit).1.isOk, (S.execute state sql values limit).2)
  | .commit => ((S.commit state).1.isOk, (S.commit state).2)
  | .rollback => ((S.rollback state).1.isOk, (S.rollback state).2)

/-- The events of calls from a state on. -/
def events : σ → List Call → List Event
  | _, [] => []
  | state, call :: calls =>
    ⟨call, (S.reply state call).1⟩ :: events (S.reply state call).2 calls

/-- The state after calls. -/
def settled : σ → List Call → σ
  | state, [] => state
  | state, call :: calls => settled (S.reply state call).2 calls

@[simp] theorem map_call_events (state : σ) (calls : List Call) :
    (S.events state calls).map Event.call = calls := by
  induction calls generalizing state with
  | nil => rfl
  | cons call calls ih => rw [events, List.map_cons, ih]

theorem events_append (state : σ) (as bs : List Call) :
    S.events state (as ++ bs) = S.events state as ++ S.events (S.settled state as) bs := by
  induction as generalizing state with
  | nil => rfl
  | cons a as ih => rw [List.cons_append, events, ih, events, settled, List.cons_append]

theorem settled_append (state : σ) (as bs : List Call) :
    S.settled state (as ++ bs) = S.settled (S.settled state as) bs := by
  induction as generalizing state with
  | nil => rfl
  | cons a as ih => rw [List.cons_append, settled, ih, settled]

end Store

/-! ### Parts of a run -/

namespace Runner

variable {r : Runner σ} {p q : Progress σ} {es : List Event}

/-- What happens between two points of a run. -/
structure Reaches (r : Runner σ) (p : Progress σ) (es : List Event) (q : Progress σ) :
    Prop where
  /-- The calls are noted. -/
  calls : q.calls = p.calls ++ es.map Event.call
  /-- The answers are those of the store. -/
  events : r.store.events p.state (es.map Event.call) = es
  /-- The state is the one that the calls lead to. -/
  state : q.state = r.store.settled p.state (es.map Event.call)

theorem Reaches.refl (r : Runner σ) (p : Progress σ) : r.Reaches p [] p :=
  ⟨(List.append_nil _).symm, rfl, rfl⟩

theorem Reaches.trans {m : Progress σ} {fs : List Event} (hp : r.Reaches p es m)
    (hm : r.Reaches m fs q) : r.Reaches p (es ++ fs) q where
  calls := by rw [hm.calls, hp.calls, List.append_assoc, List.map_append]
  events := by rw [List.map_append, Store.events_append, hp.events, ← hp.state, hm.events]
  state := by rw [hm.state, hp.state, List.map_append, Store.settled_append]

/-- Outputs and results are no calls. -/
theorem Reaches.congr {q' : Progress σ} (h : r.Reaches p es q) (hc : q'.calls = q.calls)
    (hs : q'.state = q.state) : r.Reaches p es q' :=
  ⟨hc.trans h.calls, h.events, hs.trans h.state⟩

theorem Reaches.add (h : r.Reaches p es q) (output : Json) : r.Reaches p es (q.add output) :=
  h.congr rfl rfl

theorem Reaches.publish (h : r.Reaches p es q) (index : Nat) (value : Json) :
    r.Reaches p es (q.publish index value) := h.congr rfl rfl

/-- A call that is noted with the state it leads to. -/
theorem reaches_called (r : Runner σ) (p : Progress σ) (call : Call) :
    r.Reaches p [⟨call, (r.store.reply p.state call).1⟩]
      (p.called call (r.store.reply p.state call).2) := ⟨rfl, rfl, rfl⟩

theorem reaches_begin (r : Runner σ) (p : Progress σ) :
    r.Reaches p [⟨.begin, (r.begin p).1.isOk⟩] (r.begin p).2 := r.reaches_called p .begin

theorem reaches_commit (r : Runner σ) (p : Progress σ) :
    r.Reaches p [⟨.commit, (r.commit p).1.isOk⟩] (r.commit p).2 := r.reaches_called p .commit

theorem reaches_rollback (r : Runner σ) (p : Progress σ) :
    r.Reaches p [⟨.rollback, (r.rollback p).1.isOk⟩] (r.rollback p).2 :=
  r.reaches_called p .rollback

theorem reaches_send (r : Runner σ) (p : Progress σ) (sql : String) (values : List BindValue) :
    r.Reaches p [⟨.execute sql values r.settings.rowLimit, (r.send sql values p).1.isOk⟩]
      (r.send sql values p).2 := r.reaches_called p (.execute sql values r.settings.rowLimit)

/-- From the start of a run the events are those of the calls that were noted. -/
theorem Reaches.events_calls {state : σ} (h : r.Reaches (.start state) es q) :
    r.store.events state q.calls = es := by
  rw [h.calls]
  exact h.events

end Runner

end BoundQuery
