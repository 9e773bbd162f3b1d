import BoundQuery.Proofs.Except
import BoundQuery.Proofs.Pipeline.Results
import BoundQuery.Proofs.Pipeline.Trace

/-!
# The outputs and the context of a run

A run keeps the results of its steps twice, and a step that fails must leave both copies alone.

* `Progress.Shows` : the context and the outputs of a run are those of one list of results;
* `Runner.Yields.shows` : a step that comes to a result adds it to both;
* `Runner.steps_shows` : steps add one result each, up to the first failure;
* `Runner.Reached` : a step of a run, and how far the run has come when it is bound;
* `Runner.run_outputs` : **a run returns the results of the steps that have succeeded, in order, and
  after them at most the record of a failure**, and every step is bound and transformed in the
  context of exactly the results of the steps before it.
-/

namespace BoundQuery

open Text

variable {σ : Type}

/-! ### Results so far -/

/-- Whether the context and the outputs of a run are those of these results. -/
structure Progress.Shows (p : Progress σ) (rs : List Json) : Prop where
  /-- The context. -/
  context : p.context = .ofResults rs
  /-- The outputs. -/
  outputs : p.outputs = rs.mapIdx stepOutput

namespace Progress.Shows

variable {p q : Progress σ} {rs : List Json}

theorem start (state : σ) : (Progress.start state).Shows [] := ⟨rfl, rfl⟩

theorem congr (h : p.Shows rs) (hcontext : q.context = p.context)
    (houtputs : q.outputs = p.outputs) : q.Shows rs :=
  ⟨hcontext.trans h.context, houtputs.trans h.outputs⟩

theorem publish (h : p.Shows rs) (v : Json) : (p.publish rs.length v).Shows (rs ++ [v]) where
  context := by
    rw [Context.ofResults_concat, ← h.context]
    rfl
  outputs := by
    rw [List.mapIdx_concat, ← h.outputs]
    rfl

/-- What a run shows is known from its context. -/
theorem unique {as bs : List Json} (ha : p.Shows as) (hb : p.Shows bs) : as = bs := by
  refine List.ext_getElem? fun j => ?_
  rw [← Context.get?_ofResults_outputName, ← Context.get?_ofResults_outputName, ← ha.context,
    hb.context]

end Progress.Shows

namespace Runner

/-! ### One step -/

variable {r : Runner σ} {i k : Nat} {s : Step} {ss : List Step} {p q : Progress σ} {state : σ}
  {rs vs : List Json}

/-- A step that has a result shows it after those before it. -/
theorem Yields.shows {v : Json} (h : r.Yields i s p v q) (hp : p.Shows rs) (hi : i = rs.length) :
    q.Shows (rs ++ [v]) := by
  subst hi
  cases h with
  | skipped => exact hp.publish _
  | @executed b sql _ _ _ _ _ _ _ =>
    have hsent : (r.send sql b.values p).2.Shows rs := hp.congr rfl rfl
    exact hsent.publish v

/-- A step whose statement cannot match anything has the empty result and makes no call. -/
theorem Yields.of_empty {v : Json} (h : r.Yields i s p v q) {b : BoundStatement}
    (hbind : s.bind p.context = .ok b) (hempty : b.empty = true) :
    v = .array [] ∧ q = p.publish i (.array []) := by
  cases h with
  | skipped => exact ⟨rfl, rfl⟩
  | executed hbind' hempty' =>
    obtain rfl := Except.ok.inj (hbind.symm.trans hbind')
    rw [hempty] at hempty'
    cases hempty'

/-! ### All steps -/

/-- Steps add one result each, up to the first failure. -/
theorem steps_shows (hpreview : r.settings.preview = false) (hp : p.Shows rs)
    (hk : k = rs.length) (ss : List Step) :
    ∃ vs, (r.steps k ss p).2.Shows (rs ++ vs) ∧ vs.length ≤ ss.length ∧
      ((r.steps k ss p).1 = none → vs.length = ss.length) := by
  induction ss generalizing k p rs with
  | nil => exact ⟨[], by simpa [steps] using hp, Nat.le_refl _, fun _ => rfl⟩
  | cons s ss ih =>
    rw [steps]
    cases hstep : r.step k s p with
    | mk fault m =>
      obtain ⟨v, hnone, hyields⟩ | ⟨f, hsome, hcontext, houtputs⟩ := step_yields hpreview k s p
      · rw [hstep] at hnone hyields
        obtain rfl := hnone
        -- The result of `s` comes in front of those of the other steps.
        obtain ⟨vs, hshows, hle, hall⟩ := ih (k := k + 1) (hyields.shows hp hk) (by simp [hk])
        refine ⟨v :: vs, by simpa using hshows, by simpa using hle, fun h => ?_⟩
        rw [List.length_cons, List.length_cons, hall h]
      · rw [hstep] at hsome hcontext houtputs
        obtain rfl := hsome
        exact ⟨[], by simpa using hp.congr hcontext houtputs, Nat.zero_le _, fun h => by cases h⟩

/-- The results of steps that nothing has come before. -/
theorem exists_steps_shows (hpreview : r.settings.preview = false) (hp : p.Shows [])
    (ss : List Step) : ∃ vs, (r.steps 0 ss p).2.Shows vs ∧ vs.length ≤ ss.length ∧
      ((r.steps 0 ss p).1 = none → vs.length = ss.length) :=
  steps_shows hpreview hp rfl ss

theorem steps_append (r : Runner σ) (k : Nat) (as bs : List Step) (p : Progress σ) :
    r.steps k (as ++ bs) p =
      match r.steps k as p with
      | (some fault, q) => (some fault, q)
      | (none, q) => r.steps (k + as.length) bs q := by
  induction as generalizing k p with
  | nil => rfl
  | cons a as ih =>
    rw [List.cons_append, steps, steps]
    cases r.step k a p with
    | mk fault m =>
      cases fault with
      | some fault => rfl
      | none =>
        dsimp only
        rw [ih, List.length_cons, Nat.add_comm as.length, Nat.add_assoc]

/-- All steps are those before a place, the step there and those behind it. -/
theorem steps_of_turn (h : r.Turn 0 ss p i s q) :
    r.steps 0 ss p =
      match r.step i s q with
      | (some fault, m) => (some fault, m)
      | (none, m) => r.steps (i + 1) (ss.drop (i + 1)) m := by
  obtain ⟨hs, hbefore⟩ := h
  obtain ⟨hi, rfl⟩ := List.getElem?_eq_some_iff.1 hs
  have hsplit : ss = ss.take i ++ ss[i] :: ss.drop (i + 1) := by
    rw [List.getElem_cons_drop, List.take_append_drop]
  have happend := r.steps_append 0 (ss.take i) (ss[i] :: ss.drop (i + 1)) p
  rw [← hsplit, hbefore] at happend
  rw [happend, List.length_take, Nat.min_eq_left (Nat.le_of_lt hi), Nat.zero_add]
  rfl

/-- A step in its turn stands behind exactly as many results, and adds the next one or none. -/
theorem turn_shows (hpreview : r.settings.preview = false) (hp : p.Shows [])
    (h : r.Turn 0 ss p i s q) (hfinal : (r.steps 0 ss p).2.Shows vs) :
    i ≤ vs.length ∧ q.Shows (vs.take i) ∧
      ((∃ v, vs[i]? = some v ∧ (r.step i s q).1 = none ∧ r.Yields i s q v (r.step i s q).2) ∨
        ∃ fault, vs.length = i ∧ (r.step i s q).1 = some fault ∧ (r.step i s q).2.Shows vs) := by
  obtain ⟨us, hus, -, hall⟩ := exists_steps_shows hpreview hp (ss.take i)
  rw [h.2] at hus
  have hlt := (List.getElem?_eq_some_iff.1 h.1).1
  obtain rfl : us.length = i := by
    rw [hall (by rw [h.2]), List.length_take, Nat.min_eq_left (Nat.le_of_lt hlt)]
  rw [steps_of_turn h] at hfinal
  cases hstep : r.step us.length s q with
  | mk fault m =>
    rw [hstep] at hfinal
    obtain ⟨v, hnone, hyields⟩ | ⟨f, hsome, hcontext, houtputs⟩ :=
      step_yields hpreview us.length s q
    · rw [hstep] at hnone hyields
      obtain rfl := hnone
      obtain ⟨ws, hws, -⟩ := steps_shows (k := us.length + 1) hpreview (hyields.shows hus rfl)
        (by simp) (ss.drop (us.length + 1))
      obtain rfl := hfinal.unique hws
      refine ⟨by simp, ?_, .inl ⟨v, ?_, rfl, hyields⟩⟩
      · simpa using hus
      · simp
    · rw [hstep] at hsome hcontext houtputs
      obtain rfl := hsome
      have hm : m.Shows us := hus.congr hcontext houtputs
      obtain rfl := hfinal.unique hm
      exact ⟨Nat.le_refl _, by simpa using hus, .inr ⟨f, rfl, rfl, hm⟩⟩

/-- Every result is that of a step in its turn. -/
theorem exists_turn_of_lt (hpreview : r.settings.preview = false) (hp : p.Shows [])
    (hfinal : (r.steps 0 ss p).2.Shows vs) (hi : i < vs.length) :
    ∃ s q, r.Turn 0 ss p i s q := by
  obtain ⟨ws, hws, hle, -⟩ := exists_steps_shows hpreview hp ss
  obtain rfl := hfinal.unique hws
  have hlt : i < ss.length := Nat.lt_of_lt_of_le hi hle
  cases hbefore : r.steps 0 (ss.take i) p with
  | mk fault q =>
    cases fault with
    | none => exact ⟨ss[i], q, List.getElem?_eq_getElem hlt, hbefore⟩
    | some fault =>
      -- A failure before place `i` would leave at most `i` results.
      obtain ⟨us, hus, hle', -⟩ := exists_steps_shows hpreview hp (ss.take i)
      have happend := r.steps_append 0 (ss.take i) (ss.drop i) p
      rw [List.take_append_drop, hbefore] at happend
      rw [happend] at hfinal
      rw [hbefore] at hus
      rw [hfinal.unique hus] at hi
      rw [List.length_take] at hle'
      omega

/-! ### Runs -/

/-- How far a run has come when its steps begin. -/
inductive Opens (r : Runner σ) (state : σ) : Progress σ → Prop
  /-- Without a transaction. -/
  | plain (htransactional : r.isTransactional = false) : Opens r state (.start state)
  /-- With one that has been opened. -/
  | transaction {p : Progress σ} (htransactional : r.isTransactional = true)
    (hbegin : r.begin (.start state) = (.ok (), p)) : Opens r state p

/-- The step of a run at a place, and how far the run has come when it is bound. -/
def Reached (r : Runner σ) (ss : List Step) (state : σ) (i : Nat) (s : Step) (q : Progress σ) :
    Prop :=
  ∃ p, r.Opens state p ∧ r.Turn 0 ss p i s q

theorem Opens.shows (h : r.Opens state p) : p.Shows [] := by
  cases h with
  | plain => exact .start state
  | transaction _ hbegin =>
    have hp : p = (r.begin (.start state)).2 := by rw [hbegin]
    subst hp
    exact (Progress.Shows.start state).congr rfl rfl

/-- A run whose steps begin is that of its steps, within the transaction if there is one. -/
theorem attempt_of_opens (h : r.Opens state p) :
    r.attempt ss (.start state) =
      if r.isTransactional then r.withinTransaction ss p
      else ⟨(r.steps 0 ss p).1, false, (r.steps 0 ss p).2⟩ := by
  unfold attempt
  cases h with
  | plain htransactional => rw [htransactional]; rfl
  | transaction htransactional hbegin => rw [htransactional, hbegin]; rfl

/-- A commit leaves the results alone. -/
theorem withinTransaction_shows (hshows : (r.steps 0 ss p).2.Shows vs) :
    (r.withinTransaction ss p).progress.Shows vs ∧
      ((r.withinTransaction ss p).fault = none → (r.steps 0 ss p).1 = none) := by
  unfold withinTransaction
  cases hsteps : r.steps 0 ss p with
  | mk fault q =>
    rw [hsteps] at hshows
    cases fault with
    | some fault => exact ⟨hshows, fun h => by cases h⟩
    | none =>
      have hcommit : (r.commit q).2.Shows vs := hshows.congr rfl rfl
      dsimp only
      cases hc : r.commit q with
      | mk answer m =>
        rw [hc] at hcommit
        cases answer with
        | error fault => exact ⟨hcommit, fun h => by cases h⟩
        | ok _ => exact ⟨hcommit, fun _ => rfl⟩

/-- What a run shows after its steps is what they show, and nothing if they never begin. -/
theorem attempt_shows (hpreview : r.settings.preview = false) (ss : List Step) (state : σ) :
    ∃ vs, (r.attempt ss (.start state)).progress.Shows vs ∧ vs.length ≤ ss.length ∧
      ((r.attempt ss (.start state)).fault = none → vs.length = ss.length) ∧
      (∀ p, r.Opens state p → (r.steps 0 ss p).2.Shows vs) ∧
      ((¬ ∃ p, r.Opens state p) → vs = []) := by
  unfold attempt
  split
  · rename_i htransactional
    cases hbegin : r.begin (.start state) with
    | mk answer p =>
      have hopens : ∀ {m}, r.Opens state m → answer = .ok () ∧ m = p := by
        intro m hm
        cases hm with
        | plain h => rw [h] at htransactional; cases htransactional
        | transaction _ h =>
          rw [hbegin, Prod.mk.injEq] at h
          exact ⟨h.1, h.2.symm⟩
      cases answer with
      | error fault =>
        -- The transaction is not opened: no step begins.
        have hp : p = (r.begin (.start state)).2 := by rw [hbegin]
        subst hp
        refine ⟨[], (Progress.Shows.start state).congr rfl rfl, Nat.zero_le _, ?_, fun m hm => ?_,
          fun _ => rfl⟩
        · rintro ⟨⟩
        · cases (hopens hm).1
      | ok _ =>
        have hopen : r.Opens state p := .transaction htransactional hbegin
        obtain ⟨vs, hshows, hle, hall⟩ := exists_steps_shows hpreview hopen.shows ss
        obtain ⟨hwithin, hnone⟩ := withinTransaction_shows hshows
        exact ⟨vs, hwithin, hle, fun h => hall (hnone h), fun m hm => (hopens hm).2 ▸ hshows,
          fun h => absurd ⟨p, hopen⟩ h⟩
  · rename_i htransactional
    rw [Bool.not_eq_true] at htransactional
    obtain ⟨vs, hshows, hle, hall⟩ := exists_steps_shows hpreview (.start state) ss
    refine ⟨vs, hshows, hle, hall, fun m hm => ?_, fun h => absurd ⟨_, .plain htransactional⟩ h⟩
    cases hm with
    | plain => exact hshows
    | transaction h => rw [h] at htransactional; cases htransactional

/-- A rollback leaves the results alone. -/
theorem close_shows (r : Runner σ) {o : Outcome σ} (hshows : o.progress.Shows vs) :
    (r.close o).2.Shows vs := by
  unfold close
  split
  · exact hshows.congr rfl rfl
  · exact hshows

theorem context_run (hshows : (r.attempt ss (.start state)).progress.Shows vs) :
    (r.run ss state).2.context = .ofResults vs := by
  have hclosed := r.close_shows hshows
  unfold run
  dsimp only
  cases (r.attempt ss (.start state)).fault with
  | none => exact hshows.context
  | some fault =>
    dsimp only
    cases hclose : r.close (r.attempt ss (.start state)) with
    | mk answer m =>
      rw [hclose] at hclosed
      cases answer with
      | error e => exact hclosed.context
      | ok _ => exact hclosed.context

/-- What a run returns, unless it fails itself: what its settings show of the outputs, with the
record of a failure behind them if there is one. -/
theorem run_shows (hshows : (r.attempt ss (.start state)).progress.Shows vs) {result : List Json}
    (h : (r.run ss state).1 = .ok result) :
    (r.attempt ss (.start state)).fault = none ∧ result = r.result (vs.mapIdx stepOutput) ∨
      ∃ fault, (r.attempt ss (.start state)).fault = some fault ∧
        result = r.failedResult
          (vs.mapIdx stepOutput ++ [failureRecord fault.message (.ofResults vs)]) := by
  have hclosed := r.close_shows hshows
  unfold run at h
  cases hfault : (r.attempt ss (.start state)).fault with
  | none =>
    simp only [hfault] at h
    exact .inl ⟨rfl, hshows.outputs ▸ (Except.ok.inj h).symm⟩
  | some fault =>
    simp only [hfault] at h
    cases hclose : r.close (r.attempt ss (.start state)) with
    | mk answer m =>
      rw [hclose] at h hclosed
      cases answer with
      | error e => cases h
      | ok _ =>
        refine .inr ⟨fault, rfl, ?_⟩
        rw [← Except.ok.inj h, ← hclosed.outputs, ← hclosed.context]
        rfl

/-- A run that shows all its outputs returns them, and after them the record of a failure if there
is one. -/
theorem run_result (hpreview : r.settings.preview = false) (hmode : r.settings.returnMode = .all)
    (hshows : (r.attempt ss (.start state)).progress.Shows vs) {result : List Json}
    (h : (r.run ss state).1 = .ok result) :
    (r.run ss state).2.context = .ofResults vs ∧
      ((r.attempt ss (.start state)).fault = none ∧ result = vs.mapIdx stepOutput ∨
        ∃ fault, (r.attempt ss (.start state)).fault = some fault ∧
          result = vs.mapIdx stepOutput ++ [failureRecord fault.message (.ofResults vs)]) := by
  have hresult : ∀ outputs, r.result outputs = outputs := by
    intro outputs
    rw [Runner.result, hpreview, hmode]
    rfl
  have hfailed : ∀ outputs, r.failedResult outputs = outputs := by
    intro outputs
    rw [failedResult, hresult, ite_self]
  exact ⟨context_run hshows, by simpa only [hresult, hfailed] using run_shows hshows h⟩

/-- **The outputs and the context of a run.**  A run that does not fail itself has come to results
`rs` of its first steps.  It returns them in order, of all steps or with the record of a failure and
of the results up to it behind them.  Every step is bound, and its answer transformed, in the
context of exactly the results of the steps before it, and its own result stays; one that cannot
match anything has the empty result and makes no call. -/
theorem run_outputs {result : List Json} (hpreview : r.settings.preview = false)
    (hmode : r.settings.returnMode = .all) (h : (r.run ss state).1 = .ok result) :
    ∃ rs : List Json, rs.length ≤ ss.length ∧
      (result = rs.mapIdx stepOutput ∧ rs.length = ss.length ∨
        ∃ fault, (r.attempt ss (.start state)).fault = some fault ∧
          result = rs.mapIdx stepOutput ++ [failureRecord fault.message (.ofResults rs)]) ∧
      aggregate .merge (rs.mapIdx stepOutput) = [(Context.ofResults rs).snapshot] ∧
      (r.run ss state).2.context = .ofResults rs ∧
      (∀ i < rs.length, ∃ s q, r.Reached ss state i s q) ∧
      ∀ i s q, r.Reached ss state i s q →
        i ≤ rs.length ∧ q.context = .ofResults (rs.take i) ∧
        q.outputs = (rs.take i).mapIdx stepOutput ∧
        (∀ name v, q.context.get? name = some v ↔
          ∃ j < i, name = outputName j ∧ rs[j]? = some v) ∧
        (∀ path name rest j, (trimChars path).splitOn '.' = name :: rest →
          String.ofList (trimChars name) = outputName j → i ≤ j → q.context.lookup? path = none) ∧
        (∀ b, s.bind q.context = .ok b → b.empty = true →
          rs[i]? = some (.array []) ∧ (r.step i s q).2.calls = q.calls) ∧
        ((∃ v, rs[i]? = some v ∧ (r.step i s q).1 = none ∧ r.Yields i s q v (r.step i s q).2) ∨
          ∃ fault, rs.length = i ∧ (r.step i s q).1 = some fault ∧ r.StepFails i s q fault ∧
            (r.step i s q).2.Shows rs) := by
  obtain ⟨rs, hshows, hle, hall, hsteps, hclosed⟩ := attempt_shows hpreview ss state
  obtain ⟨hcontext, hresult⟩ := run_result hpreview hmode hshows h
  refine ⟨rs, hle, ?_, aggregate_merge_outputs rs, hcontext, fun i hi => ?_, ?_⟩
  · exact hresult.imp_left fun h => ⟨h.2, hall h.1⟩
  · -- There is a result, so the steps have begun.
    by_cases hopen : ∃ p, r.Opens state p
    · obtain ⟨p, hp⟩ := hopen
      obtain ⟨s, q, hturn⟩ := exists_turn_of_lt hpreview hp.shows (hsteps p hp) hi
      exact ⟨s, q, p, hp, hturn⟩
    · rw [hclosed hopen] at hi
      cases hi
  · rintro i s q ⟨p, hp, hturn⟩
    obtain ⟨hi, hq, hstep⟩ := turn_shows hpreview hp.shows hturn (hsteps p hp)
    refine ⟨hi, hq.context, hq.outputs, fun name v => ?_, ?_, fun b hbind hempty => ?_, ?_⟩
    · rw [hq.context, Context.get?_ofResults]
      refine exists_congr fun j => ?_
      rw [List.getElem?_take]
      by_cases hj : j < i <;> simp [hj]
    · intro path name rest j hpath hname hij
      have hnone : (rs.take i)[j]? = none := List.getElem?_eq_none (by simp; omega)
      rw [hq.context, Context.lookup?_ofResults _ hpath hname, hnone]
      rfl
    · rcases hstep with ⟨v, hv, -, hyields⟩ | ⟨fault, -, hfault, -⟩
      · obtain ⟨rfl, hm⟩ := hyields.of_empty hbind hempty
        exact ⟨hv, by rw [hm]; rfl⟩
      · -- A step that is skipped does not fail.
        simp [step, hbind, boundStep, hpreview, hempty] at hfault
    · rcases hstep with hstep | ⟨fault, hlength, hfault, hshows⟩
      · exact .inl hstep
      · obtain ⟨es, htrace⟩ := r.step_trace i s q
        exact .inr ⟨fault, hlength, hfault, htrace.fails fault hfault, hshows⟩

/-- A step that is skipped and one whose script is unknown. -/
theorem run_outputs_skipped :
    ((standard (.scripted (.ok ()) (.ok ()) (.ok ())) .db2 {}).run
        [⟨"DELETE FROM t WHERE a IN (?)", [⟨.string, .array []⟩], none⟩,
          ⟨"SELECT a FROM t", [], some "rows"⟩] []).1.toOption.map (·.map Json.text) =
      some ["\x7b\"output0\":[]\x7d",
        "\x7b\"contextSnapshot\":\x7b\"output0\":[]\x7d," ++
          "\"error\":\"Transform error: Unknown transform \\\"rows\\\"\"\x7d"] ∧
    ∃ result rs,
      ((standard (.scripted (.ok ()) (.ok ()) (.ok ())) .db2 {}).run
        [⟨"DELETE FROM t WHERE a IN (?)", [⟨.string, .array []⟩], none⟩,
          ⟨"SELECT a FROM t", [], some "rows"⟩] []).1 = .ok result ∧ rs.length ≤ 2 ∧
      (result = rs.mapIdx stepOutput ∧ rs.length = 2 ∨ ∃ fault : RunFault,
        result = rs.mapIdx stepOutput ++ [failureRecord fault.message (.ofResults rs)]) := by
  have htexts : ((standard (.scripted (.ok ()) (.ok ()) (.ok ())) .db2 {}).run
        [⟨"DELETE FROM t WHERE a IN (?)", [⟨.string, .array []⟩], none⟩,
          ⟨"SELECT a FROM t", [], some "rows"⟩] []).1.toOption.map (·.map Json.text) =
      some ["\x7b\"output0\":[]\x7d",
        "\x7b\"contextSnapshot\":\x7b\"output0\":[]\x7d," ++
          "\"error\":\"Transform error: Unknown transform \\\"rows\\\"\"\x7d"] := by
    decide +kernel
  obtain ⟨result, hresult, -⟩ := Option.map_eq_some_iff.1 htexts
  have hok := toOption_eq_some_iff.1 hresult
  obtain ⟨rs, hle, hrs, -⟩ := run_outputs rfl rfl hok
  exact ⟨htexts, result, rs, hok, hle, hrs.imp_right fun h => h.imp fun _ h => h.2⟩

end Runner

end BoundQuery
