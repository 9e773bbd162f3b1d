import BoundQuery.Proofs.Pipeline.Event
import Mathlib.Data.List.Forall2

/-!
# What steps do to a store

* `Runner.Issues` : an execution that a step asks for; `Runner.StepFails` : why a step fails;
* `Runner.Yields` : the two ways in which a step comes to a result; `Runner.step_cases` shows that
  any other step fails for a reason and leaves the results of the run alone;
* `Runner.step_trace` : one step makes at most one call, the execution of its statement;
* `Runner.Executes` : executions that steps ask for, one after the other;
* `Runner.Fails` : why steps fail;
* `Runner.Finishes`, `Runner.Stops` : steps that all come to a result, and steps of which one fails
  after all before it have, told by what each step does and not by the verdict of the loop;
* `Runner.steps_trace` : **steps make no calls but their executions, in order, and none after the
  first failure;**
* `Runner.steps_finishes`, `Runner.Fails.stops` : where no step fails, each of them comes to a
  result, and where one fails, each of those before it does.
-/

namespace BoundQuery

namespace Runner

variable {σ : Type}

/-! ### One step -/

/-- An execution of a statement of a step: bound to something that can match, and passed. -/
def Issues (r : Runner σ) (s : Step) (p : Progress σ) (e : Event) : Prop :=
  ∃ b sql, s.bind p.context = .ok b ∧ b.empty = false ∧
    r.sanitize b.sql r.settings.rowLimit r.settings.selectOnly = .ok sql ∧
    e.call = .execute sql b.values r.settings.rowLimit

/-- Why the step with an index fails. -/
inductive StepFails (r : Runner σ) (index : Nat) (s : Step) (p : Progress σ) : RunFault → Prop
  /-- It makes no statement. -/
  | bind {fault : StatementFault} (hbind : s.bind p.context = .error fault) :
    StepFails r index s p (.statement fault)
  /-- Its statement must not run. -/
  | sanitize {b : BoundStatement} {fault : RunFault} (hbind : s.bind p.context = .ok b)
    (hempty : b.empty = false)
    (hcheck : r.sanitize b.sql r.settings.rowLimit r.settings.selectOnly = .error fault) :
    StepFails r index s p (.execution fault b.sql b.values)
  /-- The store reports a failure. -/
  | execute {b : BoundStatement} {sql : String} {fault : StoreFault}
    (hbind : s.bind p.context = .ok b) (hempty : b.empty = false)
    (hcheck : r.sanitize b.sql r.settings.rowLimit r.settings.selectOnly = .ok sql)
    (hsend : (r.send sql b.values p).1 = .error fault) :
    StepFails r index s p (.execution (.store fault) sql b.values)
  /-- The transform gives no result. -/
  | transform {b : BoundStatement} {sql : String} {raw : Json} {fault : RunFault}
    (hbind : s.bind p.context = .ok b) (hempty : b.empty = false)
    (hcheck : r.sanitize b.sql r.settings.rowLimit r.settings.selectOnly = .ok sql)
    (hsend : (r.send sql b.values p).1 = .ok raw)
    (htransform : r.transformed s index raw p.context = .error fault) :
    StepFails r index s p fault

/-- How the step with an index comes to its result from where the run stands, and what is reached
with it. -/
inductive Yields (r : Runner σ) (i : Nat) (s : Step) (p : Progress σ) : Json → Progress σ → Prop
  /-- Its statement cannot match anything: no call is made. -/
  | skipped {b : BoundStatement} (hbind : s.bind p.context = .ok b) (hempty : b.empty = true) :
    Yields r i s p (.array []) (p.publish i (.array []))
  /-- Its statement is executed, and the answer is transformed. -/
  | executed {b : BoundStatement} {sql : String} {raw value : Json}
    (hbind : s.bind p.context = .ok b) (hempty : b.empty = false)
    (hcheck : r.sanitize b.sql r.settings.rowLimit r.settings.selectOnly = .ok sql)
    (hsend : (r.send sql b.values p).1 = .ok raw)
    (htransform : r.transformed s i raw p.context = .ok value) :
    Yields r i s p value ((r.send sql b.values p).2.publish i value)

/-- What one step has done. -/
structure StepTrace (r : Runner σ) (index : Nat) (s : Step) (p : Progress σ) (es : List Event)
    (fault : Option RunFault) (q : Progress σ) : Prop where
  /-- The calls. -/
  reaches : r.Reaches p es q
  /-- They are executions of the step. -/
  issues : ∀ e ∈ es, r.Issues s p e
  /-- There is at most one. -/
  single : es.length ≤ 1
  /-- A step that does not fail has not seen a failure. -/
  succeeds : fault = none → ∀ e ∈ es, e.succeeded = true
  /-- A preview makes no call. -/
  preview : r.settings.preview = true → es = []
  /-- There is a reason for a failure. -/
  fails : ∀ f, fault = some f → r.StepFails index s p f

theorem StepTrace.quiet {r : Runner σ} {index : Nat} {s : Step} {p q : Progress σ}
    {fault : Option RunFault} (hreaches : r.Reaches p [] q)
    (hfails : ∀ f, fault = some f → r.StepFails index s p f) :
    r.StepTrace index s p [] fault q :=
  ⟨hreaches, nofun, Nat.zero_le _, fun _ => nofun, fun _ => rfl, hfails⟩

theorem StepTrace.sent {r : Runner σ} {index : Nat} {s : Step} {p q : Progress σ} {e : Event}
    {fault : Option RunFault} (hpreview : r.settings.preview = false) (hreaches : r.Reaches p [e] q)
    (hissues : r.Issues s p e) (hsucceeds : fault = none → e.succeeded = true)
    (hfails : ∀ f, fault = some f → r.StepFails index s p f) :
    r.StepTrace index s p [e] fault q where
  reaches := hreaches
  issues := by simpa using hissues
  single := Nat.le_refl _
  succeeds h := by simpa using hsucceeds h
  preview h := by rw [hpreview] at h; cases h
  fails := hfails

/-- A step that comes to a result has made at most its call. -/
theorem Yields.trace {r : Runner σ} {i : Nat} {s : Step} {p q : Progress σ} {v : Json}
    (hpreview : r.settings.preview = false) (h : r.Yields i s p v q) :
    ∃ es, r.StepTrace i s p es none q := by
  cases h with
  | skipped => exact ⟨[], .quiet ((Reaches.refl r p).publish _ _) nofun⟩
  | @executed b sql _ _ hbind hempty hcheck hsend =>
    have hreaches := (r.reaches_send p sql b.values).publish i v
    have hanswer : (r.send sql b.values p).1.isOk = true := by rw [hsend]; rfl
    exact ⟨_, .sent hpreview hreaches ⟨b, sql, hbind, hempty, hcheck, rfl⟩ (fun _ => hanswer) nofun⟩

/-- What a step does outside of a preview: it comes to a result, or it fails for a reason and leaves
the results of the run alone. -/
theorem step_cases {r : Runner σ} (hpreview : r.settings.preview = false) (i : Nat) (s : Step)
    (p : Progress σ) :
    (∃ v, (r.step i s p).1 = none ∧ r.Yields i s p v (r.step i s p).2) ∨
      ∃ fault es, (r.step i s p).1 = some fault ∧
        r.StepTrace i s p es (some fault) (r.step i s p).2 ∧
        (r.step i s p).2.context = p.context ∧ (r.step i s p).2.outputs = p.outputs := by
  unfold step
  cases hbind : s.bind p.context with
  | error fault =>
    refine .inr ⟨_, [], rfl, .quiet (.refl r p) ?_, rfl, rfl⟩
    rintro f ⟨⟩
    exact .bind hbind
  | ok b =>
    dsimp only
    unfold boundStep
    rw [if_neg (by simp [hpreview])]
    split
    · rename_i hempty
      exact .inl ⟨_, rfl, .skipped hbind hempty⟩
    rename_i hempty
    rw [Bool.not_eq_true] at hempty
    unfold execute
    cases hcheck : r.sanitize b.sql r.settings.rowLimit r.settings.selectOnly with
    | error fault =>
      refine .inr ⟨_, [], rfl, .quiet (.refl r p) ?_, rfl, rfl⟩
      rintro f ⟨⟩
      exact .sanitize hbind hempty hcheck
    | ok sql =>
      have hissues : r.Issues s p
          ⟨.execute sql b.values r.settings.rowLimit, (r.send sql b.values p).1.isOk⟩ :=
        ⟨b, sql, hbind, hempty, hcheck, rfl⟩
      have hreaches := r.reaches_send p sql b.values
      -- A call leaves the results alone, so the transform still sees those of before.
      have hcontext : (r.send sql b.values p).2.context = p.context := rfl
      have houtputs : (r.send sql b.values p).2.outputs = p.outputs := rfl
      have hyields := @Yields.executed σ r i s p b sql
      dsimp only
      cases hsend : r.send sql b.values p with
      | mk answer m =>
        have hanswer : (r.send sql b.values p).1 = answer := by rw [hsend]
        rw [hsend] at hissues hreaches hcontext houtputs hyields
        cases answer with
        | error fault =>
          refine .inr ⟨_, _, rfl, .sent hpreview hreaches hissues nofun ?_, hcontext, houtputs⟩
          rintro f ⟨⟩
          exact .execute hbind hempty hcheck hanswer
        | ok raw =>
          dsimp only
          rw [hcontext]
          cases htransform : r.transformed s i raw p.context with
          | error fault =>
            refine .inr ⟨_, _, rfl, .sent hpreview hreaches hissues nofun ?_, hcontext, houtputs⟩
            rintro f ⟨⟩
            exact .transform hbind hempty hcheck hanswer htransform
          | ok value => exact .inl ⟨_, rfl, hyields hbind hempty hcheck rfl htransform⟩

theorem step_trace (r : Runner σ) (index : Nat) (s : Step) (p : Progress σ) :
    ∃ es, r.StepTrace index s p es (r.step index s p).1 (r.step index s p).2 := by
  cases hpreview : r.settings.preview with
  | true =>
    unfold step
    cases hbind : s.bind p.context with
    | error fault =>
      refine ⟨[], .quiet (.refl r p) ?_⟩
      rintro f ⟨⟩
      exact .bind hbind
    | ok b =>
      dsimp only
      rw [boundStep, if_pos hpreview]
      exact ⟨[], .quiet ((Reaches.refl r p).add _) nofun⟩
  | false =>
    rcases step_cases hpreview index s p with ⟨v, hnone, hyields⟩ | ⟨fault, es, hsome, htrace, -, -⟩
    · rw [hnone]
      exact hyields.trace hpreview
    · rw [hsome]
      exact ⟨es, htrace⟩

/-- A step comes to a result, or it fails and leaves the results of the run alone. -/
theorem step_yields {r : Runner σ} (hpreview : r.settings.preview = false) (i : Nat) (s : Step)
    (p : Progress σ) :
    (∃ v, (r.step i s p).1 = none ∧ r.Yields i s p v (r.step i s p).2) ∨
      ∃ fault, (r.step i s p).1 = some fault ∧ (r.step i s p).2.context = p.context ∧
        (r.step i s p).2.outputs = p.outputs := by
  rcases step_cases hpreview i s p with h | ⟨fault, -, hsome, -, hcontext, houtputs⟩
  · exact .inl h
  · exact .inr ⟨fault, hsome, hcontext, houtputs⟩

/-! ### All steps -/

/-- The step of a list at a place, whose first step has the index `k`, and how far the run has come
when it is this step's turn: all steps before it have succeeded. -/
def Turn (r : Runner σ) (k : Nat) (ss : List Step) (p : Progress σ) (i : Nat) (s : Step)
    (q : Progress σ) : Prop :=
  ss[i]? = some s ∧ r.steps k (ss.take i) p = (none, q)

/-- Executions of steps in their turn: at most one of each step, in order. -/
def Executes (r : Runner σ) (k : Nat) (ss : List Step) (p : Progress σ) (es : List Event) : Prop :=
  ∃ is : List Nat, is.Pairwise (· < ·) ∧
    List.Forall₂ (fun i e => ∃ s q, r.Turn k ss p i s q ∧ r.Issues s q e) is es

/-- Why steps fail: one of them does in its turn. -/
def Fails (r : Runner σ) (k : Nat) (ss : List Step) (p : Progress σ) (fault : RunFault) : Prop :=
  ∃ i s q, r.Turn k ss p i s q ∧ r.StepFails (k + i) s q fault

/-- Steps with indices from `k` on that all come to a result, each from where the one before it has
led. -/
inductive Finishes (r : Runner σ) : Nat → List Step → Progress σ → Progress σ → Prop
  /-- There are no steps. -/
  | nil {k : Nat} {p : Progress σ} : Finishes r k [] p p
  /-- The first step comes to its result, and the others follow. -/
  | cons {k : Nat} {s : Step} {ss : List Step} {v : Json} {p m q : Progress σ}
    (hyields : r.Yields k s p v m) (hrest : Finishes r (k + 1) ss m q) :
    Finishes r k (s :: ss) p q

/-- Why steps with indices from `k` on stop: one of them fails, and all before it have come to their
results. -/
def Stops (r : Runner σ) (k : Nat) (ss : List Step) (p : Progress σ) (fault : RunFault) : Prop :=
  ∃ i s q, ss[i]? = some s ∧ r.Finishes k (ss.take i) p q ∧ r.StepFails (k + i) s q fault

/-- What steps have done. -/
structure Trace (r : Runner σ) (k : Nat) (ss : List Step) (p : Progress σ) (es : List Event)
    (fault : Option RunFault) (q : Progress σ) : Prop where
  /-- The calls. -/
  reaches : r.Reaches p es q
  /-- They are executions of the steps. -/
  executes : r.Executes k ss p es
  /-- Steps that do not fail have not seen a failure. -/
  succeeds : fault = none → ∀ e ∈ es, e.succeeded = true
  /-- Only the last execution can have failed. -/
  initial : ∀ e ∈ es.dropLast, e.succeeded = true
  /-- A preview makes no call. -/
  preview : r.settings.preview = true → es = []
  /-- There is a reason for a failure. -/
  fails : ∀ f, fault = some f → r.Fails k ss p f

variable {r : Runner σ} {k : Nat} {s : Step} {ss : List Step} {p q : Progress σ}
  {es fs : List Event}

theorem turn_zero : r.Turn k (s :: ss) p 0 s p := ⟨rfl, rfl⟩

theorem Turn.succ (hstep : r.step k s p = (none, q)) {i : Nat} {t : Step} {q' : Progress σ}
    (h : r.Turn (k + 1) ss q i t q') : r.Turn k (s :: ss) p (i + 1) t q' := by
  refine ⟨h.1, ?_⟩
  rw [List.take_succ_cons, steps, hstep]
  exact h.2

theorem executes_nil : r.Executes k ss p [] := ⟨[], .nil, .nil⟩

theorem executes_first {e : Event} (h : r.Issues s p e) : r.Executes k (s :: ss) p [e] :=
  ⟨[0], List.pairwise_singleton _ _, .cons ⟨s, p, turn_zero, h⟩ .nil⟩

theorem Executes.succ (hstep : r.step k s p = (none, q)) (h : r.Executes (k + 1) ss q es) :
    r.Executes k (s :: ss) p es ∧
      ∀ e, r.Issues s p e → r.Executes k (s :: ss) p (e :: es) := by
  obtain ⟨is, his, hall⟩ := h
  -- Every step comes one place later, and place 0 is free for the step in front.
  have hpairwise : (is.map (· + 1)).Pairwise (· < ·) :=
    List.pairwise_map.2 (his.imp fun h => Nat.succ_lt_succ h)
  have hall' : List.Forall₂ (fun i e => ∃ t q', r.Turn k (s :: ss) p i t q' ∧ r.Issues t q' e)
      (is.map (· + 1)) es := by
    rw [List.forall₂_map_left_iff]
    refine hall.imp fun i e => ?_
    rintro ⟨t, q', hturn, hissues⟩
    exact ⟨t, q', hturn.succ hstep, hissues⟩
  refine ⟨⟨_, hpairwise, hall'⟩, fun e he => ⟨0 :: is.map (· + 1), ?_, ?_⟩⟩
  · refine List.pairwise_cons.2 ⟨fun i hi => ?_, hpairwise⟩
    obtain ⟨j, -, rfl⟩ := List.mem_map.1 hi
    exact Nat.succ_pos j
  · exact .cons ⟨s, p, turn_zero, he⟩ hall'

theorem Executes.exists_turn (h : r.Executes k ss p es) :
    ∀ e ∈ es, ∃ i s q, r.Turn k ss p i s q ∧ r.Issues s q e := by
  obtain ⟨is, -, hall⟩ := h
  intro e he
  induction hall with
  | nil => cases he
  | @cons i e' is es hturn _ ih =>
    rcases List.mem_cons.1 he with rfl | he
    · exact ⟨i, hturn⟩
    · exact ih he

/-- An execution is no other call. -/
theorem Executes.call_of_mem (h : r.Executes k ss p es) {e : Event} (he : e ∈ es) :
    ∃ sql values, e.call = .execute sql values r.settings.rowLimit := by
  obtain ⟨_, _, _, _, b, sql, _, _, _, hcall⟩ := h.exists_turn e he
  exact ⟨sql, b.values, hcall⟩

theorem Fails.succ (hstep : r.step k s p = (none, q)) {fault : RunFault}
    (h : r.Fails (k + 1) ss q fault) : r.Fails k (s :: ss) p fault := by
  obtain ⟨i, t, q', hturn, hfails⟩ := h
  refine ⟨i + 1, t, q', hturn.succ hstep, ?_⟩
  rwa [Nat.add_right_comm] at hfails

/-- A step that fails ends the steps. -/
theorem StepTrace.trace_of_fails {fault : RunFault} (h : r.StepTrace k s p es (some fault) q) :
    r.Trace k (s :: ss) p es (some fault) q where
  reaches := h.reaches
  executes := by
    have hissues := h.issues
    have hsingle := h.single
    match es with
    | [] => exact executes_nil
    | [e] => exact executes_first (hissues e List.mem_cons_self)
    | _ :: _ :: _ => simp at hsingle
  succeeds := nofun
  initial e he := by
    have hsingle := h.single
    have hnil : es.dropLast = [] := by
      rw [← List.length_eq_zero_iff, List.length_dropLast]
      omega
    rw [hnil] at he
    cases he
  preview := h.preview
  fails f hf := ⟨0, s, p, turn_zero, h.fails f hf⟩

/-- A step that succeeds is followed by the others. -/
theorem StepTrace.trace_of_succeeds {m : Progress σ} {fault : Option RunFault}
    (hstep : r.step k s p = (none, m)) (h : r.StepTrace k s p es none m)
    (ht : r.Trace (k + 1) ss m fs fault q) : r.Trace k (s :: ss) p (es ++ fs) fault q where
  reaches := h.reaches.trans ht.reaches
  executes := by
    have hissues := h.issues
    have hsingle := h.single
    match es with
    | [] => exact (ht.executes.succ hstep).1
    | [e] => exact (ht.executes.succ hstep).2 e (hissues e List.mem_cons_self)
    | _ :: _ :: _ => simp at hsingle
  succeeds hf e he := by
    rcases List.mem_append.1 he with he | he
    · exact h.succeeds rfl e he
    · exact ht.succeeds hf e he
  initial e he := by
    -- The last execution of all is one of the later steps, if they have any.
    by_cases hnil : fs = []
    · rw [hnil, List.append_nil] at he
      exact h.succeeds rfl e (List.dropLast_subset es he)
    · rw [List.dropLast_append_of_ne_nil hnil] at he
      rcases List.mem_append.1 he with he | he
      · exact h.succeeds rfl e he
      · exact ht.initial e he
  preview hp := by rw [h.preview hp, ht.preview hp, List.append_nil]
  fails f hf := (ht.fails f hf).succ hstep

/-- **What the steps of a run do.** -/
theorem steps_trace (r : Runner σ) (k : Nat) (ss : List Step) (p : Progress σ) :
    ∃ es, r.Trace k ss p es (r.steps k ss p).1 (r.steps k ss p).2 := by
  induction ss generalizing k p with
  | nil => exact ⟨[], .refl r p, executes_nil, fun _ => nofun, nofun, fun _ => rfl, nofun⟩
  | cons s ss ih =>
    obtain ⟨es, h⟩ := r.step_trace k s p
    rw [steps]
    cases hstep : r.step k s p with
    | mk fault m =>
      rw [hstep] at h
      cases fault with
      | some fault => exact ⟨es, h.trace_of_fails⟩
      | none =>
        obtain ⟨fs, ht⟩ := ih (k + 1) m
        exact ⟨es ++ fs, h.trace_of_succeeds hstep ht⟩

/-- Where no step fails, each of them comes to a result. -/
theorem steps_finishes (hpreview : r.settings.preview = false)
    (h : r.steps k ss p = (none, q)) : r.Finishes k ss p q := by
  induction ss generalizing k p with
  | nil =>
    obtain rfl : p = q := congrArg Prod.snd h
    exact .nil
  | cons s ss ih =>
    rw [steps] at h
    cases hstep : r.step k s p with
    | mk fault m =>
      rw [hstep] at h
      have hcases := step_yields hpreview k s p
      rw [hstep] at hcases
      rcases hcases with ⟨v, rfl, hyields⟩ | ⟨fault, rfl, -, -⟩
      · exact .cons hyields (ih h)
      · cases h

/-- Where a step fails, each of those before it comes to a result. -/
theorem Fails.stops (hpreview : r.settings.preview = false) {fault : RunFault}
    (h : r.Fails k ss p fault) : r.Stops k ss p fault := by
  obtain ⟨i, s, q, ⟨hs, hbefore⟩, hfails⟩ := h
  exact ⟨i, s, q, hs, steps_finishes hpreview hbefore, hfails⟩

end Runner

end BoundQuery
