import BoundQuery.Proofs.Pipeline.Outputs

/-!
# Views of a run

The settings say how the outputs of a run are shown: all of them, the last one, the one of a step,
or one object of all; and whether that holds for a run that fails too.  They say nothing about the
run itself.

* `Runner.viewed` : a runner with another view; `Runner.run_viewed` shows that it makes the same
  calls and reaches the same;
* `Runner.FailsAt` : where a run fails and why; `Runner.fault_attempt_iff` shows that these are all
  the failures;
* `ShowsFailure` : what each view shows of a failure;
* `Runner.run_views` : **whether a failure is seen depends on the view alone, and the view changes
  nothing else.**
-/

namespace BoundQuery

variable {σ : Type}

/-! ### Outputs in a view -/

theorem outputName_ne {i : Nat} {name : String} (h : name.toList.head? ≠ some 'o') :
    outputName i ≠ name := by
  rintro rfl
  exact h (by simp [outputName])

theorem field?_stepOutput (i : Nat) (v : Json) (name : String) :
    (stepOutput i v).field? name = if name = outputName i then some v else none :=
  Keyed.get?_insert (outputName i) name v []

/-- What all views but one show are outputs. -/
theorem mem_of_mem_aggregate {mode : ReturnMode} (hmode : mode ≠ .merge) {outputs : List Json}
    {output : Json} (h : output ∈ aggregate mode outputs) : output ∈ outputs := by
  cases mode with
  | all => exact h
  | last => exact List.mem_of_getLast? (Option.mem_toList.1 h)
  | specific index => exact List.mem_of_getElem? (Option.mem_toList.1 h)
  | merge => exact absurd rfl hmode

/-- Outputs of steps have no field of another name, in any view. -/
theorem field?_aggregate {mode : ReturnMode} {rs : List Json} {output : Json} {name : String}
    (hname : name.toList.head? ≠ some 'o') (h : output ∈ aggregate mode (rs.mapIdx stepOutput)) :
    output.field? name = none := by
  by_cases hmode : mode = .merge
  · subst hmode
    rw [aggregate_merge_outputs, List.mem_singleton] at h
    subst h
    change (Context.ofResults rs).get? name = none
    rw [Option.eq_none_iff_forall_ne_some]
    intro v hv
    obtain ⟨j, rfl, -⟩ := Context.get?_ofResults.1 hv
    exact outputName_ne hname rfl
  · obtain ⟨i, hi, rfl⟩ := List.mem_mapIdx.1 (mem_of_mem_aggregate hmode h)
    rw [field?_stepOutput, if_neg (outputName_ne hname).symm]

/-- What a view shows of a run that fails, by the results before the failure and by its text. -/
structure ShowsFailure (mode : ReturnMode) (stop : Bool) (rs : List Json) (message : String)
    (result : List Json) : Prop where
  /-- All outputs, with the record of the failure behind them. -/
  all : stop = true ∨ mode = .all →
    result = rs.mapIdx stepOutput ++ [failureRecord message (.ofResults rs)]
  /-- The last one is the record. -/
  last : stop = false → mode = .last → result = [failureRecord message (.ofResults rs)]
  /-- The fields of the outputs and of the record. -/
  merge : stop = false → mode = .merge → ∃ merged, result = [merged] ∧ merged.isObject = true ∧
    merged.field? "error" = some (.string message) ∧
    ∀ i v, rs[i]? = some v → merged.field? (outputName i) = some v
  /-- The output of a step before the failure. -/
  before : ∀ i v, stop = false → mode = .specific i → rs[i.toNat]? = some v →
    result = [stepOutput i.toNat v]
  /-- The record in place of the output of the step that fails. -/
  failing : ∀ i, stop = false → mode = .specific i → i.toNat = rs.length →
    result = [failureRecord message (.ofResults rs)]
  /-- Nothing of a step behind the failure. -/
  behind : ∀ i, stop = false → mode = .specific i → rs.length < i.toNat → result = []

theorem outputFields_failureRecord (message : String) (c : Context) :
    outputFields (failureRecord message c) =
      [("contextSnapshot", c.snapshot), ("error", .string message)] := by
  have hlt : "contextSnapshot" < "error" := by decide
  simp [failureRecord, Json.record, outputFields, Keyed.ofList, Keyed.merge, Keyed.insert, hlt]

theorem merged_failure (rs : List Json) (message : String) (c : Context) :
    ∃ merged, aggregate .merge (rs.mapIdx stepOutput ++ [failureRecord message c]) = [merged] ∧
      merged.isObject = true ∧ merged.field? "error" = some (.string message) ∧
      ∀ i v, rs[i]? = some v → merged.field? (outputName i) = some v := by
  have houtputs : Json.record ((rs.mapIdx stepOutput).flatMap outputFields) =
      (Context.ofResults rs).snapshot := List.head_eq_of_cons_eq (aggregate_merge_outputs rs)
  have hfields : Keyed.ofList ((rs.mapIdx stepOutput).flatMap outputFields) =
      (Context.ofResults rs).outputs := Json.object.inj houtputs
  refine ⟨.object (((Context.ofResults rs).outputs.insert "contextSnapshot" c.snapshot).insert
    "error" (.string message)), ?_, rfl, Keyed.get?_insert_self _ _ _, fun i v hv => ?_⟩
  · rw [aggregate, List.flatMap_append, List.flatMap_singleton, outputFields_failureRecord,
      Json.record, Keyed.ofList_append, hfields]
    rfl
  · have herror : outputName i ≠ "error" := outputName_ne (by decide)
    have hsnapshot : outputName i ≠ "contextSnapshot" := outputName_ne (by decide)
    change Keyed.get? (outputName i) _ = _
    rw [Keyed.get?_insert_of_ne _ _ herror, Keyed.get?_insert_of_ne _ _ hsnapshot]
    exact Context.get?_ofResults.2 ⟨i, rfl, hv⟩

namespace Runner

variable {r : Runner σ} {ss : List Step} {state : σ} {p q : Progress σ}

/-! ### Where a run fails -/

/-- Where a run fails, and why. -/
inductive FailsAt (r : Runner σ) (ss : List Step) (state : σ) : Nat → RunFault → Prop
  /-- The transaction is not opened: no step begins. -/
  | unopened {fault : StoreFault} (htransactional : r.isTransactional = true)
    (hbegin : (r.begin (.start state)).1 = .error fault) : FailsAt r ss state 0 (.store fault)
  /-- A step fails. -/
  | step {i : Nat} {s : Step} {q : Progress σ} {fault : RunFault}
    (hreached : r.Reached ss state i s q)
    (hstep : (r.step i s q).1 = some fault) : FailsAt r ss state i fault
  /-- The transaction is not committed behind the last step. -/
  | uncommitted {p q : Progress σ} {fault : StoreFault} (htransactional : r.isTransactional = true)
    (hopens : r.Opens state p) (hsteps : r.steps 0 ss p = (none, q))
    (hcommit : (r.commit q).1 = .error fault) : FailsAt r ss state ss.length (.store fault)

/-- Steps that fail do so in the turn of one of them. -/
theorem exists_turn_of_fault {k : Nat} {fault : RunFault} (h : (r.steps k ss p).1 = some fault) :
    ∃ i s q, r.Turn k ss p i s q ∧ (r.step (k + i) s q).1 = some fault := by
  induction ss generalizing k p with
  | nil => cases h
  | cons s ss ih =>
    rw [steps] at h
    cases hstep : r.step k s p with
    | mk answer m =>
      rw [hstep] at h
      cases answer with
      | some other => exact ⟨0, s, p, turn_zero, by rw [Nat.add_zero, hstep]; exact h⟩
      | none =>
        obtain ⟨i, t, q, hturn, hfault⟩ := ih h
        refine ⟨i + 1, t, q, hturn.succ hstep, ?_⟩
        rwa [Nat.add_right_comm] at hfault

/-- A step that fails is the failure of the run. -/
theorem fault_attempt_of_steps (h : r.Opens state p) {fault : RunFault}
    (hsteps : (r.steps 0 ss p).1 = some fault) :
    (r.attempt ss (.start state)).fault = some fault := by
  rw [attempt_of_opens h]
  split
  · unfold withinTransaction
    cases hall : r.steps 0 ss p with
    | mk answer q =>
      rw [hall] at hsteps
      obtain rfl : answer = some fault := hsteps
      rfl
  · exact hsteps

/-- If no step fails, a run fails only if it is not committed. -/
theorem fault_attempt_of_none (h : r.Opens state p) (hsteps : r.steps 0 ss p = (none, q))
    {fault : RunFault} :
    (r.attempt ss (.start state)).fault = some fault ↔
      r.isTransactional = true ∧ ∃ e, (r.commit q).1 = .error e ∧ fault = .store e := by
  rw [attempt_of_opens h]
  split
  · rename_i htransactional
    rw [and_iff_right htransactional, withinTransaction, hsteps]
    dsimp only
    cases r.commit q with
    | mk answer m =>
      cases answer with
      | error e =>
        constructor
        · exact fun hfault => ⟨e, rfl, (Option.some.inj hfault).symm⟩
        · rintro ⟨_, ⟨⟩, rfl⟩
          rfl
      | ok _ => exact iff_of_false nofun (by rintro ⟨_, ⟨⟩, _⟩)
  · rename_i htransactional
    rw [hsteps]
    exact iff_of_false nofun fun hn => htransactional hn.1

/-- A run fails at one of its places. -/
theorem exists_failsAt {fault : RunFault} (h : (r.attempt ss (.start state)).fault = some fault) :
    ∃ f, r.FailsAt ss state f fault := by
  -- What happens once the steps begin.
  have hbegun : ∀ p, r.Opens state p → ∃ f, r.FailsAt ss state f fault := by
    intro p hopens
    cases hsteps : r.steps 0 ss p with
    | mk answer q =>
      cases answer with
      | some other =>
        have hother := fault_attempt_of_steps hopens (by rw [hsteps])
        obtain rfl := Option.some.inj (h.symm.trans hother)
        obtain ⟨i, s, m, hturn, hstep⟩ := exists_turn_of_fault (by rw [hsteps])
        rw [Nat.zero_add] at hstep
        exact ⟨i, .step ⟨p, hopens, hturn⟩ hstep⟩
      | none =>
        obtain ⟨htransactional, e, hcommit, rfl⟩ := (fault_attempt_of_none hopens hsteps).1 h
        exact ⟨ss.length, .uncommitted htransactional hopens hsteps hcommit⟩
  cases htransactional : r.isTransactional with
  | false => exact hbegun _ (.plain htransactional)
  | true =>
    cases hbegin : r.begin (.start state) with
    | mk answer p =>
      cases answer with
      | ok _ => exact hbegun p (.transaction htransactional hbegin)
      | error e =>
        rw [attempt, if_pos htransactional, hbegin] at h
        obtain rfl := Option.some.inj h
        exact ⟨0, .unopened htransactional (by rw [hbegin])⟩

theorem FailsAt.fault_eq {f : Nat} {fault : RunFault} (h : r.FailsAt ss state f fault) :
    (r.attempt ss (.start state)).fault = some fault := by
  cases h with
  | @unopened e htransactional hbegin =>
    rw [attempt, if_pos htransactional]
    cases hb : r.begin (.start state) with
    | mk answer p =>
      rw [hb] at hbegin
      obtain rfl : answer = .error e := hbegin
      rfl
  | step hreached hstep =>
    obtain ⟨p, hopens, hturn⟩ := hreached
    refine fault_attempt_of_steps hopens ?_
    rw [steps_of_turn hturn]
    cases hs : r.step _ _ _ with
    | mk answer m =>
      rw [hs] at hstep
      obtain rfl : answer = some fault := hstep
      rfl
  | uncommitted htransactional hopens hsteps hcommit =>
    exact (fault_attempt_of_none hopens hsteps).2 ⟨htransactional, _, hcommit, rfl⟩

/-- The failures of a run are those at its places. -/
theorem fault_attempt_iff {fault : RunFault} :
    (r.attempt ss (.start state)).fault = some fault ↔ ∃ f, r.FailsAt ss state f fault :=
  ⟨exists_failsAt, fun ⟨_, h⟩ => h.fault_eq⟩

/-- A run fails behind as many results as there are steps before the place. -/
theorem FailsAt.length_eq {f : Nat} {fault : RunFault} {vs : List Json}
    (hpreview : r.settings.preview = false) (h : r.FailsAt ss state f fault)
    (hshows : (r.attempt ss (.start state)).progress.Shows vs) : vs.length = f := by
  obtain ⟨us, hus, -, -, hsteps, hclosed⟩ := attempt_shows hpreview ss state
  obtain rfl := hshows.unique hus
  cases h with
  | unopened htransactional hbegin =>
    -- No step begins, since the transaction is not opened.
    rw [hclosed, List.length_nil]
    rintro ⟨p, hopens⟩
    cases hopens with
    | plain hplain => rw [htransactional] at hplain; cases hplain
    | transaction _ hopened => rw [hopened] at hbegin; cases hbegin
  | step hreached hstep =>
    obtain ⟨p, hopens, hturn⟩ := hreached
    obtain ⟨-, -, ⟨v, -, hnone, -⟩ | ⟨e, hlength, -⟩⟩ :=
      turn_shows hpreview hopens.shows hturn (hsteps p hopens)
    · rw [hnone] at hstep
      cases hstep
    · exact hlength
  | @uncommitted p q _ _ hopens hall _ =>
    obtain ⟨ws, hws, -, hlength⟩ := exists_steps_shows hpreview hopens.shows ss
    obtain rfl := (hsteps p hopens).unique hws
    exact hlength (by rw [hall])

/-! ### Views -/

/-- The same runner with another view of its outputs. -/
def viewed (r : Runner σ) (mode : ReturnMode) (stop : Bool) : Runner σ :=
  { r with settings := { r.settings with returnMode := mode, stopOnError := stop } }

variable (mode : ReturnMode) (stop : Bool)

theorem steps_viewed (k : Nat) (ss : List Step) (p : Progress σ) :
    (r.viewed mode stop).steps k ss p = r.steps k ss p := by
  induction ss generalizing k p with
  | nil => rfl
  | cons s ss ih =>
    have hstep : (r.viewed mode stop).step k s p = r.step k s p := rfl
    rw [steps, steps, hstep]
    cases r.step k s p with
    | mk fault m =>
      cases fault with
      | some fault => rfl
      | none => exact ih (k + 1) m

theorem attempt_viewed (ss : List Step) (p : Progress σ) :
    (r.viewed mode stop).attempt ss p = r.attempt ss p := by
  unfold attempt withinTransaction
  simp only [steps_viewed]
  rfl

/-- A view changes nothing but the result, and it does not change that a run fails itself. -/
theorem run_viewed (ss : List Step) (state : σ) :
    ((r.viewed mode stop).run ss state).2 = (r.run ss state).2 ∧
      ∀ fault, ((r.viewed mode stop).run ss state).1 = .error fault ↔
        (r.run ss state).1 = .error fault := by
  have hclose : (r.viewed mode stop).close (r.attempt ss (.start state)) =
      r.close (r.attempt ss (.start state)) := rfl
  unfold run
  dsimp only
  rw [attempt_viewed, hclose]
  cases (r.attempt ss (.start state)).fault with
  | none => exact ⟨rfl, fun fault => iff_of_false nofun nofun⟩
  | some fault =>
    dsimp only
    cases r.close (r.attempt ss (.start state)) with
    | mk answer m =>
      cases answer with
      | error e => exact ⟨rfl, fun _ => Iff.rfl⟩
      | ok _ => exact ⟨rfl, fun fault => iff_of_false nofun nofun⟩

theorem result_viewed (hpreview : r.settings.preview = false) (outputs : List Json) :
    (r.viewed mode stop).result outputs = aggregate mode outputs := by
  rw [Runner.result, viewed, hpreview]
  rfl

/-- What is shown of a failure, and how, is up to the view. -/
theorem showsFailure_failedResult (hpreview : r.settings.preview = false) (rs : List Json)
    (message : String) :
    ShowsFailure mode stop rs message ((r.viewed mode stop).failedResult
      (rs.mapIdx stepOutput ++ [failureRecord message (.ofResults rs)])) := by
  have hfailed : ∀ outputs, (r.viewed mode stop).failedResult outputs =
      if stop then outputs else aggregate mode outputs := by
    intro outputs
    rw [failedResult, result_viewed mode stop hpreview]
    rfl
  rw [hfailed]
  have hlength : (rs.mapIdx stepOutput).length = rs.length := List.length_mapIdx
  constructor
  case all =>
    rintro (rfl | rfl)
    · rfl
    · exact ite_self _
  case last =>
    rintro rfl rfl
    rw [if_neg Bool.false_ne_true, aggregate, List.getLast?_concat]
    rfl
  case merge =>
    rintro rfl rfl
    exact merged_failure rs message _
  case before =>
    rintro i v rfl rfl hv
    have hi := (List.getElem?_eq_some_iff.1 hv).1
    rw [if_neg Bool.false_ne_true, aggregate, List.getElem?_append_left (hlength ▸ hi),
      List.getElem?_mapIdx, hv]
    rfl
  case failing =>
    rintro i rfl rfl hi
    rw [if_neg Bool.false_ne_true, aggregate, hi, ← hlength, List.getElem?_concat_length]
    rfl
  case behind =>
    rintro i rfl rfl hi
    rw [if_neg Bool.false_ne_true, aggregate, List.getElem?_eq_none]
    · rfl
    · rw [List.length_append, hlength]
      exact hi

/-- **Views of a run.**  Whatever a run does, another view of it changes the result only, and never
whether the run fails itself.  A run that fails behind the results `rs` shows that as its view says;
one that does not fail shows no error, and merged it shows the context as it is. -/
theorem run_views (hpreview : r.settings.preview = false) (ss : List Step) (state : σ) :
    ((r.viewed mode stop).run ss state).2 = (r.run ss state).2 ∧
    (∀ fault, ((r.viewed mode stop).run ss state).1 = .error fault ↔
      (r.run ss state).1 = .error fault) ∧
    ∃ rs : List Json, (r.run ss state).2.context = .ofResults rs ∧
      (∀ f fault, r.FailsAt ss state f fault → rs.length = f ∧
        ∀ result, ((r.viewed mode stop).run ss state).1 = .ok result →
          ShowsFailure mode stop rs fault.message result) ∧
      ((¬ ∃ f fault, r.FailsAt ss state f fault) → rs.length = ss.length ∧
        ∃ result, ((r.viewed mode stop).run ss state).1 = .ok result ∧
          result = aggregate mode (rs.mapIdx stepOutput) ∧
          (∀ output ∈ result, output.field? "error" = none) ∧
          (mode = .merge → result = [(r.run ss state).2.context.snapshot] ∧
            ∀ i v, rs[i]? = some v → (r.run ss state).2.context.get? (outputName i) = some v)) := by
  obtain ⟨hsame, herror⟩ := r.run_viewed mode stop ss state
  obtain ⟨rs, hshows, -, hall, -⟩ := attempt_shows hpreview ss state
  have hcontext := context_run hshows
  have hviewed : ((r.viewed mode stop).attempt ss (.start state)).progress.Shows rs := by
    rwa [attempt_viewed]
  refine ⟨hsame, herror, rs, hcontext, fun f fault hfails => ⟨hfails.length_eq hpreview hshows,
    fun result hresult => ?_⟩, fun hnone => ?_⟩
  · have hfault := hfails.fault_eq
    obtain ⟨hnone, -⟩ | ⟨e, he, rfl⟩ := run_shows hviewed hresult
    · rw [attempt_viewed, hfault] at hnone
      cases hnone
    · rw [attempt_viewed, hfault] at he
      obtain rfl := Option.some.inj he
      exact showsFailure_failedResult mode stop hpreview rs fault.message
  · have hfault : (r.attempt ss (.start state)).fault = none := by
      rw [Option.eq_none_iff_forall_ne_some]
      intro fault hfault
      obtain ⟨f, hfails⟩ := fault_attempt_iff.1 hfault
      exact hnone ⟨f, fault, hfails⟩
    have hrun : ((r.viewed mode stop).run ss state).1 =
        .ok (aggregate mode (rs.mapIdx stepOutput)) := by
      unfold run
      dsimp only
      rw [attempt_viewed, hfault]
      dsimp only
      rw [result_viewed mode stop hpreview, hshows.outputs]
    refine ⟨hall hfault, _, hrun, rfl, fun output houtput => field?_aggregate (by decide) houtput,
      ?_⟩
    rintro rfl
    refine ⟨by rw [aggregate_merge_outputs, hcontext], fun i v hv => ?_⟩
    rw [hcontext]
    exact Context.get?_ofResults.2 ⟨i, rfl, hv⟩

/-- The first output of a run that is rolled back, since it cannot be committed. -/
theorem run_views_uncommitted :
    (((standard (.scripted (.ok ()) (.error (.database "full")) (.ok ())) .db2
        { useTransaction := true }).viewed (.specific 0) false).run
          [⟨"DELETE FROM t", [], none⟩] []).1.toOption.map (·.map Json.text) =
      some ["\x7b\"output0\":\x7b\"rowsAffected\":0\x7d\x7d"] ∧
    ∃ result rs,
      (((standard (.scripted (.ok ()) (.error (.database "full")) (.ok ())) .db2
        { useTransaction := true }).viewed (.specific 0) false).run
          [⟨"DELETE FROM t", [], none⟩] []).1 = .ok result ∧
      rs.length = 1 ∧ ShowsFailure (.specific 0) false rs "Database error: full" result := by
  have htexts : (((standard (.scripted (.ok ()) (.error (.database "full")) (.ok ())) .db2
        { useTransaction := true }).viewed (.specific 0) false).run
          [⟨"DELETE FROM t", [], none⟩] []).1.toOption.map (·.map Json.text) =
      some ["\x7b\"output0\":\x7b\"rowsAffected\":0\x7d\x7d"] := by
    decide +kernel
  obtain ⟨result, hresult, -⟩ := Option.map_eq_some_iff.1 htexts
  have hok := toOption_eq_some_iff.1 hresult
  -- The only step succeeds.
  have hsteps : ((standard (.scripted (.ok ()) (.error (.database "full")) (.ok ())) .db2
      { useTransaction := true }).steps 0 [⟨"DELETE FROM t", [], none⟩]
        ((Progress.start []).called .begin [])).1.isNone = true := by
    decide +kernel
  obtain ⟨-, -, rs, -, hfails, -⟩ :=
    run_views (r := standard (.scripted (.ok ()) (.error (.database "full")) (.ok ())) .db2
      { useTransaction := true }) (.specific 0) false rfl [⟨"DELETE FROM t", [], none⟩] []
  obtain ⟨hlength, hshows⟩ := hfails 1 _ (.uncommitted rfl (.transaction rfl rfl)
    (Prod.ext (Option.isNone_iff_eq_none.1 hsteps) rfl) rfl)
  exact ⟨htexts, result, rs, hok, hlength, hshows result hok⟩

end Runner

end BoundQuery
