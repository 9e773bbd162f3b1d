import BoundQuery.Proofs.Pipeline.Trace

/-!
# The transaction protocol

* `Runner.events` : the calls of a run with their answers;
* `Runner.Ends` : the four ways in which a run in a transaction can end, each with what its steps
  have come to;
* `Runner.run_protocol` : **a preview makes no calls, a run without a transaction only executes,
  and a run in a transaction ends in exactly one of the four ways.**  So a transaction that has been
  opened is committed, or a rollback has been tried, and a run fails itself exactly when that
  rollback does.
-/

namespace BoundQuery

namespace Runner

variable {σ : Type}

/-- The calls of a run with their answers. -/
def events (r : Runner σ) (ss : List Step) (state : σ) : List Event :=
  r.store.events state (r.run ss state).2.calls

/-- How a run in a transaction ends. -/
inductive Ending where
  /-- The transaction is not opened. -/
  | unopened
  /-- The transaction is committed. -/
  | committed
  /-- The transaction is not committed although no step fails. -/
  | uncommitted
  /-- A step fails. -/
  | failed

/-- The calls of a run in a transaction for each of its endings. -/
inductive Ends (r : Runner σ) (ss : List Step) (state : σ) : Ending → List Event → Prop
  /-- There is nothing to roll back. -/
  | unopened (hbegin : (r.begin (.start state)).1.isOk = false) :
    Ends r ss state .unopened [⟨.begin, false⟩]
  /-- Every step comes to its result, and all calls succeed. -/
  | committed {es : List Event} {q : Progress σ} (hbegin : (r.begin (.start state)).1.isOk = true)
    (hexecutes : r.Executes 0 ss (r.begin (.start state)).2 es)
    (hall : ∀ e ∈ es, e.succeeded = true)
    (hnone : (r.steps 0 ss (r.begin (.start state)).2).1 = none)
    (hfinishes : r.Finishes 0 ss (r.begin (.start state)).2 q) :
    Ends r ss state .committed (⟨.begin, true⟩ :: es ++ [⟨.commit, true⟩])
  /-- Every step comes to its result, but the commit fails. -/
  | uncommitted {es : List Event} {ok : Bool} {q : Progress σ}
    (hbegin : (r.begin (.start state)).1.isOk = true)
    (hexecutes : r.Executes 0 ss (r.begin (.start state)).2 es)
    (hall : ∀ e ∈ es, e.succeeded = true)
    (hnone : (r.steps 0 ss (r.begin (.start state)).2).1 = none)
    (hfinishes : r.Finishes 0 ss (r.begin (.start state)).2 q) :
    Ends r ss state .uncommitted
      (⟨.begin, true⟩ :: es ++ [⟨.commit, false⟩, ⟨.rollback, ok⟩])
  /-- A step fails after those before it have come to their results, and nothing is committed. -/
  | failed {es : List Event} {ok : Bool} {fault : RunFault}
    (hbegin : (r.begin (.start state)).1.isOk = true)
    (hexecutes : r.Executes 0 ss (r.begin (.start state)).2 es)
    (hinitial : ∀ e ∈ es.dropLast, e.succeeded = true)
    (hsome : (r.steps 0 ss (r.begin (.start state)).2).1 = some fault)
    (hfails : r.Fails 0 ss (r.begin (.start state)).2 fault)
    (hstops : r.Stops 0 ss (r.begin (.start state)).2 fault) :
    Ends r ss state .failed (⟨.begin, true⟩ :: es ++ [⟨.rollback, ok⟩])

variable {r : Runner σ} {ss : List Step} {state : σ} {p : Progress σ} {es : List Event}

/-! ### From the steps to the run -/

/-- Where nothing is open, the run makes no further call and does not fail itself. -/
theorem run_of_closed {fault : Option RunFault}
    (hattempt : r.attempt ss (.start state) = ⟨fault, false, p⟩)
    (hreaches : r.Reaches (.start state) es p) :
    r.events ss state = es ∧ r.Reaches (.start state) es (r.run ss state).2 ∧
      ∃ result, (r.run ss state).1 = .ok result := by
  cases fault with
  | none =>
    have hrun : r.run ss state = (.ok (r.result p.outputs), p) := by simp only [run, hattempt]
    rw [events, hrun]
    exact ⟨hreaches.events_calls, hreaches, _, rfl⟩
  | some fault =>
    have hrun : r.run ss state =
        (.ok (r.failedResult (p.add (failureRecord fault.message p.context)).outputs),
          p.add (failureRecord fault.message p.context)) := by
      simp only [run, hattempt, close, Bool.false_eq_true, if_false]
    rw [events, hrun]
    exact ⟨(hreaches.add _).events_calls, hreaches.add _, _, rfl⟩

/-- Where a transaction is open, the run rolls back and fails if that does. -/
theorem run_of_open {fault : RunFault}
    (hattempt : r.attempt ss (.start state) = ⟨some fault, true, p⟩)
    (hreaches : r.Reaches (.start state) es p) :
    ∃ ok, r.events ss state = es ++ [⟨.rollback, ok⟩] ∧
      r.Reaches (.start state) (es ++ [⟨.rollback, ok⟩]) (r.run ss state).2 ∧
      ((∃ fault, (r.run ss state).1 = .error fault) ↔ ok = false) := by
  have hback := hreaches.trans (r.reaches_rollback p)
  cases hrollback : r.rollback p with
  | mk answer q =>
    rw [hrollback] at hback
    cases answer with
    | error fault =>
      have hrun : r.run ss state = (.error (.rollback fault), q) := by
        simp only [run, hattempt, close, if_true, hrollback]
      refine ⟨false, ?_, ?_, ?_⟩
      · rw [events, hrun]
        exact hback.events_calls
      · rw [hrun]
        exact hback
      · rw [hrun]
        exact iff_of_true ⟨_, rfl⟩ rfl
    | ok _ =>
      have hrun : r.run ss state =
          (.ok (r.failedResult (q.add (failureRecord fault.message q.context)).outputs),
            q.add (failureRecord fault.message q.context)) := by
        simp only [run, hattempt, close, if_true, hrollback]
      refine ⟨true, ?_, ?_, ?_⟩
      · rw [events, hrun]
        exact (hback.add _).events_calls
      · rw [hrun]
        exact hback.add _
      · rw [hrun]
        exact iff_of_false nofun nofun

/-! ### With and without a transaction -/

theorem isTransactional_iff : r.isTransactional = true ↔
    r.settings.useTransaction = true ∧ r.settings.preview = false := by
  simp [isTransactional]

/-- Without a transaction the run is that of its steps. -/
theorem run_of_not_transactional (h : r.isTransactional = false) (ss : List Step) (state : σ) :
    (∃ result, (r.run ss state).1 = .ok result) ∧
      r.Reaches (.start state) (r.events ss state) (r.run ss state).2 ∧
      r.Trace 0 ss (.start state) (r.events ss state) (r.steps 0 ss (.start state)).1
        (r.steps 0 ss (.start state)).2 := by
  obtain ⟨es, ht⟩ := r.steps_trace 0 ss (.start state)
  have hattempt : r.attempt ss (.start state) =
      ⟨(r.steps 0 ss (.start state)).1, false, (r.steps 0 ss (.start state)).2⟩ := by
    rw [attempt, h]
    rfl
  obtain ⟨hevents, hrun, hresult⟩ := run_of_closed hattempt ht.reaches
  rw [hevents]
  exact ⟨hresult, hrun, ht⟩

/-- Executions are no rollbacks. -/
theorem Executes.rollback_mem_iff (h : r.Executes 0 ss p es) {answer : Bool} {fs : List Event} :
    ⟨.rollback, answer⟩ ∈ ⟨.begin, true⟩ :: es ++ fs ↔ ⟨.rollback, answer⟩ ∈ fs := by
  simp only [List.cons_append, List.mem_cons, List.mem_append, Event.mk.injEq, reduceCtorEq,
    false_and, false_or, or_iff_right_iff_imp]
  intro he
  obtain ⟨sql, values, hcall⟩ := h.call_of_mem he
  cases hcall

/-- With a transaction that has been opened the run ends in one of three ways. -/
theorem exists_ends_of_begin (h : r.isTransactional = true)
    (hb : r.begin (.start state) = (.ok (), p)) :
    ∃ ending, r.Ends ss state ending (r.events ss state) ∧
      r.Reaches (.start state) (r.events ss state) (r.run ss state).2 ∧
      ((∃ fault, (r.run ss state).1 = .error fault) ↔
        ⟨.rollback, false⟩ ∈ r.events ss state) := by
  have hpreview : r.settings.preview = false := (isTransactional_iff.1 h).2
  have hbegin : (r.begin (.start state)).1.isOk = true := by
    rw [hb]
    rfl
  have hopen := r.reaches_begin (.start state)
  rw [hbegin] at hopen
  obtain rfl : (r.begin (.start state)).2 = p := by rw [hb]
  obtain ⟨es, ht⟩ := r.steps_trace 0 ss (r.begin (.start state)).2
  have hexecutes := ht.executes
  have hreaches := hopen.trans ht.reaches
  cases hsteps : r.steps 0 ss (r.begin (.start state)).2 with
  | mk fault q =>
    rw [hsteps] at ht hreaches
    change r.Reaches _ (⟨.begin, true⟩ :: es) q at hreaches
    cases fault with
    | some fault =>
      -- A step has failed: the transaction is still open, and no commit is tried.
      have hattempt : r.attempt ss (.start state) = ⟨some fault, true, q⟩ := by
        rw [attempt, if_pos h, hb]
        simp only [withinTransaction, hsteps]
      obtain ⟨ok, hevents, hrun, hresult⟩ := run_of_open hattempt hreaches
      refine ⟨.failed, ?_, hevents ▸ hrun, ?_⟩
      · have hfails := ht.fails fault rfl
        rw [hevents]
        exact .failed hbegin hexecutes ht.initial (by rw [hsteps]) hfails (hfails.stops hpreview)
      · rw [hevents, hresult]
        rw [hexecutes.rollback_mem_iff]
        cases ok <;> simp
    | none =>
      have hnone : (r.steps 0 ss (r.begin (.start state)).2).1 = none := by rw [hsteps]
      have hfinishes := steps_finishes hpreview hsteps
      have hcommit := hreaches.trans (r.reaches_commit q)
      cases hc : r.commit q with
      | mk answer m =>
        rw [hc] at hcommit
        cases answer with
        | error fault =>
          -- The commit has failed, which leaves the transaction open.
          change r.Reaches _ (⟨.begin, true⟩ :: es ++ [⟨.commit, false⟩]) m at hcommit
          have hattempt : r.attempt ss (.start state) = ⟨some (.store fault), true, m⟩ := by
            rw [attempt, if_pos h, hb]
            simp only [withinTransaction, hsteps, hc]
          obtain ⟨ok, hevents, hrun, hresult⟩ := run_of_open hattempt hcommit
          rw [List.append_assoc] at hevents hrun
          refine ⟨.uncommitted, ?_, hevents ▸ hrun, ?_⟩
          · rw [hevents]
            exact .uncommitted hbegin hexecutes (ht.succeeds rfl) hnone hfinishes
          · rw [hevents, hresult]
            rw [hexecutes.rollback_mem_iff]
            cases ok <;> simp
        | ok _ =>
          change r.Reaches _ (⟨.begin, true⟩ :: es ++ [⟨.commit, true⟩]) m at hcommit
          have hattempt : r.attempt ss (.start state) = ⟨none, false, m⟩ := by
            rw [attempt, if_pos h, hb]
            simp only [withinTransaction, hsteps, hc]
          obtain ⟨hevents, hrun, result, hresult⟩ := run_of_closed hattempt hcommit
          refine ⟨.committed, ?_, hevents ▸ hrun, ?_⟩
          · rw [hevents]
            exact .committed hbegin hexecutes (ht.succeeds rfl) hnone hfinishes
          · rw [hevents, hresult]
            exact iff_of_false nofun fun hmem => by simpa using hexecutes.rollback_mem_iff.1 hmem

/-- With a transaction the run ends in one of four ways. -/
theorem exists_ends (h : r.isTransactional = true) :
    ∃ ending, r.Ends ss state ending (r.events ss state) ∧
      r.Reaches (.start state) (r.events ss state) (r.run ss state).2 ∧
      ((∃ fault, (r.run ss state).1 = .error fault) ↔
        ⟨.rollback, false⟩ ∈ r.events ss state) := by
  cases hb : r.begin (.start state) with
  | mk answer p =>
    cases answer with
    | error fault =>
      have hopen := r.reaches_begin (.start state)
      rw [hb] at hopen
      have hattempt : r.attempt ss (.start state) = ⟨some (.store fault), false, p⟩ := by
        rw [attempt, if_pos h, hb]
      obtain ⟨hevents, hrun, result, hresult⟩ := run_of_closed hattempt hopen
      refine ⟨.unopened, ?_, hevents ▸ hrun, ?_⟩
      · rw [hevents]
        exact .unopened (by rw [hb]; rfl)
      · rw [hevents, hresult]
        exact iff_of_false nofun (by simp)
    | ok _ => exact exists_ends_of_begin h hb

theorem Ends.unopened_iff {a : Ending} (h : r.Ends ss state a es) :
    a = .unopened ↔ (r.begin (.start state)).1.isOk = false := by
  cases h <;> simp_all

theorem Ends.failed_iff {a : Ending} (h : r.Ends ss state a es) :
    a = .failed ↔ (r.begin (.start state)).1.isOk = true ∧
      (r.steps 0 ss (r.begin (.start state)).2).1.isSome = true := by
  cases h <;> simp_all

theorem Ends.committed_iff {a : Ending} (h : r.Ends ss state a es) :
    a = .committed ↔ es.getLast? = some ⟨.commit, true⟩ := by
  cases h <;> simp [List.getLast?_cons, List.getLast?_append]

/-- A run in a transaction ends in no two ways. -/
theorem Ends.unique {a b : Ending} (ha : r.Ends ss state a es) (hb : r.Ends ss state b es) :
    a = b := by
  have hunopened := ha.unopened_iff.trans hb.unopened_iff.symm
  have hfailed := ha.failed_iff.trans hb.failed_iff.symm
  have hcommitted := ha.committed_iff.trans hb.committed_iff.symm
  cases a <;> cases b <;> simp at hunopened hfailed hcommitted ⊢

/-- A transaction that has been opened is committed or rolled back. -/
theorem Ends.closed {a : Ending} (h : r.Ends ss state a es) (hbegin : ⟨.begin, true⟩ ∈ es) :
    ⟨.commit, true⟩ ∈ es ∨ ∃ answer, ⟨.rollback, answer⟩ ∈ es := by
  cases h with
  | unopened => simp at hbegin
  | committed => exact .inl (by simp)
  | @uncommitted _ ok => exact .inr ⟨ok, by simp⟩
  | @failed _ ok => exact .inr ⟨ok, by simp⟩

/-- An execution stands between the first call of a transaction and the last ones. -/
theorem mem_of_execute {fs : List Event} {e : Event} (he : e ∈ ⟨.begin, true⟩ :: es ++ fs)
    {sql : String} {values : List BindValue} {limit : UInt64}
    (hcall : e.call = .execute sql values limit)
    (hlast : ∀ f ∈ fs, f.call = .commit ∨ f.call = .rollback) : e ∈ es := by
  simp only [List.cons_append, List.mem_cons, List.mem_append] at he
  rcases he with rfl | he | he
  · cases hcall
  · exact he
  · rcases hlast e he with h | h <;> cases hcall.symm.trans h

/-- Every execution of a run in a transaction is that of a step in its turn. -/
theorem Ends.exists_turn {a : Ending} (h : r.Ends ss state a es) {e : Event} (he : e ∈ es)
    {sql : String} {values : List BindValue} {limit : UInt64}
    (hcall : e.call = .execute sql values limit) :
    ∃ i s q, r.Turn 0 ss (r.begin (.start state)).2 i s q ∧ r.Issues s q e := by
  cases h with
  | unopened =>
    obtain rfl := List.mem_singleton.1 he
    cases hcall
  | committed _ hexecutes =>
    exact hexecutes.exists_turn e (mem_of_execute he hcall (by simp))
  | uncommitted _ hexecutes =>
    exact hexecutes.exists_turn e (mem_of_execute he hcall (by simp))
  | failed _ hexecutes =>
    exact hexecutes.exists_turn e (mem_of_execute he hcall (by simp))

/-- Every execution of a run is that of a step in its turn. -/
theorem exists_turn_of_mem_calls {sql : String} {values : List BindValue} {limit : UInt64}
    (h : .execute sql values limit ∈ (r.run ss state).2.calls) :
    ∃ p i s q b, r.Turn 0 ss p i s q ∧ s.bind q.context = .ok b ∧ b.empty = false ∧
      r.sanitize b.sql r.settings.rowLimit r.settings.selectOnly = .ok sql ∧ values = b.values := by
  obtain ⟨e, he, hcall⟩ : ∃ e ∈ r.events ss state, e.call = .execute sql values limit := by
    rw [← List.mem_map, events, Store.map_call_events]
    exact h
  have hissues : ∃ p i s q, r.Turn 0 ss p i s q ∧ r.Issues s q e := by
    cases htransactional : r.isTransactional with
    | false =>
      obtain ⟨-, -, ht⟩ := run_of_not_transactional htransactional ss state
      exact ⟨_, ht.executes.exists_turn e he⟩
    | true =>
      obtain ⟨ending, hends, -⟩ := exists_ends htransactional
      exact ⟨_, hends.exists_turn he hcall⟩
  obtain ⟨p, i, s, q, hturn, b, checked, hbind, hempty, hcheck, hsent⟩ := hissues
  obtain ⟨rfl, rfl, -⟩ : sql = checked ∧ values = b.values ∧ limit = r.settings.rowLimit := by
    simpa using hcall.symm.trans hsent
  exact ⟨p, i, s, q, b, hturn, hbind, hempty, hcheck, rfl⟩

/-- **The transaction protocol.**  A preview makes no calls; without a transaction the calls are
executions of steps in their turn; with one the run ends in exactly one of the four ways, and a
commit is tried only after every step has come to its result.  So a transaction that has been opened
is committed, or a rollback has been tried, and the run fails itself exactly when that rollback
does. -/
theorem run_protocol (r : Runner σ) (ss : List Step) (state : σ) :
    r.Reaches (.start state) (r.events ss state) (r.run ss state).2 ∧
    (r.settings.preview = true → (r.run ss state).2.calls = []) ∧
    (r.settings.preview = false → r.settings.useTransaction = false →
      r.Executes 0 ss (.start state) (r.events ss state) ∧
        ∀ e ∈ (r.events ss state).dropLast, e.succeeded = true) ∧
    (r.settings.preview = false → r.settings.useTransaction = true →
      ∃! ending, r.Ends ss state ending (r.events ss state)) ∧
    (⟨.begin, true⟩ ∈ r.events ss state →
      ⟨.commit, true⟩ ∈ r.events ss state ∨ ∃ answer, ⟨.rollback, answer⟩ ∈ r.events ss state) ∧
    ((∃ fault, (r.run ss state).1 = .error fault) ↔ ⟨.rollback, false⟩ ∈ r.events ss state) := by
  cases htransactional : r.isTransactional with
  | false =>
    obtain ⟨⟨result, hresult⟩, hrun, ht⟩ := run_of_not_transactional htransactional ss state
    refine ⟨hrun, fun hp => ?_, fun _ _ => ⟨ht.executes, ht.initial⟩, fun hp hu => ?_,
      fun hmem => ?_, ?_⟩
    · rw [hrun.calls, ht.preview hp]
      rfl
    · simp [isTransactional, hp, hu] at htransactional
    · obtain ⟨sql, values, hsql⟩ := ht.executes.call_of_mem hmem
      cases hsql
    · rw [hresult]
      refine iff_of_false nofun fun hmem => ?_
      obtain ⟨sql, values, hsql⟩ := ht.executes.call_of_mem hmem
      cases hsql
  | true =>
    obtain ⟨ending, hends, hrun, hresult⟩ := exists_ends htransactional
    have hsettings := isTransactional_iff.1 htransactional
    refine ⟨hrun, fun hp => ?_, fun _ hu => ?_, fun _ _ => ?_, hends.closed, hresult⟩
    · rw [hsettings.2] at hp
      cases hp
    · rw [hsettings.1] at hu
      cases hu
    · exact ⟨ending, hends, fun other hother => hother.unique hends⟩

/-- A commit that fails is followed by a rollback. -/
example :
    (Runner.standard (.scripted (.ok ()) (.error (.database "locked")) (.ok ())) .sqlite
      { useTransaction := true }).events [⟨"DELETE FROM t;", [], none⟩] [] =
      [⟨.begin, true⟩, ⟨.execute "DELETE FROM t" [] 200, true⟩, ⟨.commit, false⟩,
        ⟨.rollback, true⟩] := by
  decide +kernel

end Runner

end BoundQuery
