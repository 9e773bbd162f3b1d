import BoundQuery.Proofs.Binding.Reference
import BoundQuery.Proofs.Pipeline.Outputs

/-!
# Previews

A preview binds the steps of a run and shows their statements.  It publishes nothing, so every step
is bound in the empty context, and what is shown of it depends on that step alone.

* `previews` : what a preview shows of steps, by the steps alone; `Runner.run_of_preview` shows that
  every preview shows that, whatever its store and its other settings are;
* `Progress.executions` : the statements that a store has received;
* `Runner.Yields.sends` : what one step sends; `Runner.Finishes.sends` shows that steps that refer
  to nothing send, one after the other, the statements that they make in the empty context;
* `Tells` : what a record of a preview tells of an execution;
* `Runner.run_previewed` : **a preview tells what the run executes.**
-/

namespace BoundQuery

variable {σ τ : Type}

/-! ### What is shown -/

/-- What a preview shows of the step with an index: the statement that it makes without any results,
or why it makes none. -/
def Step.preview (index : Nat) (s : Step) : Json :=
  match s.bind .empty with
  | .ok b => stepOutput index (previewRecord b)
  | .error fault => failureRecord (RunFault.statement fault).message .empty

/-- What a preview shows of steps, the first of which has the given index.  The first step that
makes no statement is the last one that is shown. -/
def previews (index : Nat) : List Step → List Json
  | [] => []
  | s :: ss => s.preview index :: if (s.bind .empty).isOk then previews (index + 1) ss else []

/-- What is shown at a place is that of the step there, and of no other one. -/
theorem exists_of_getElem?_previews {k i : Nat} {ss : List Step} {output : Json}
    (h : (previews k ss)[i]? = some output) :
    ∃ s, ss[i]? = some s ∧ output = s.preview (k + i) := by
  induction ss generalizing k i with
  | nil => cases h
  | cons s ss ih =>
    cases i with
    | zero => exact ⟨s, rfl, (Option.some.inj h).symm⟩
    | succ i =>
      rw [previews, List.getElem?_cons_succ] at h
      split at h
      · obtain ⟨t, ht, rfl⟩ := ih h
        exact ⟨t, ht, by rw [Nat.add_right_comm, Nat.add_assoc]⟩
      · cases h

/-- Statements that steps make without any results. -/
def MakeAlone : List Step → List BoundStatement → Prop :=
  List.Forall₂ fun s b => s.bind .empty = .ok b

/-- Where every step makes a statement, there is one record of each, in order. -/
theorem MakeAlone.previews_eq {ss : List Step} {bs : List BoundStatement} (h : MakeAlone ss bs)
    (k : Nat) : previews k ss = bs.mapIdx fun i b => stepOutput (k + i) (previewRecord b) := by
  induction h generalizing k with
  | nil => rfl
  | cons hbind _ ih =>
    rw [previews, Step.preview, hbind, List.mapIdx_cons, if_pos (by rfl), ih (k + 1)]
    simp only [Nat.add_zero, Nat.add_assoc, Nat.add_comm 1]

namespace Runner

variable {v : Runner τ}

/-- The outputs of a preview, with the record of a failure behind them if there is one. -/
theorem steps_of_preview (hpreview : v.settings.preview = true) (k : Nat) (ss : List Step)
    {p : Progress τ} (hp : p.context = .empty) :
    (v.steps k ss p).2.context = .empty ∧
      (v.steps k ss p).2.outputs ++
        ((v.steps k ss p).1.map fun fault => failureRecord fault.message .empty).toList =
      p.outputs ++ previews k ss := by
  induction ss generalizing k p with
  | nil => exact ⟨hp, rfl⟩
  | cons s ss ih =>
    rw [steps, step, hp, previews, Step.preview]
    cases s.bind .empty with
    | error fault => exact ⟨hp, rfl⟩
    | ok b =>
      dsimp only
      rw [boundStep, if_pos hpreview]
      -- An output is added, and nothing is published.
      obtain ⟨hcontext, houtputs⟩ := ih (k + 1) (p := p.add (stepOutput k (previewRecord b))) hp
      exact ⟨hcontext, houtputs.trans (List.append_assoc ..)⟩

/-- Every preview shows the same, and it does not fail itself. -/
theorem run_of_preview (hpreview : v.settings.preview = true) (ss : List Step) (state : τ) :
    (v.run ss state).1 = .ok (previews 0 ss) := by
  have hresult : ∀ outputs, v.result outputs = outputs := fun outputs => if_pos hpreview
  have hfailed : ∀ outputs, v.failedResult outputs = outputs := by
    intro outputs
    rw [failedResult, hresult, ite_self]
  have hplain : v.isTransactional = false := by
    rw [isTransactional, hpreview, Bool.not_true, Bool.and_false]
  obtain ⟨hcontext, houtputs⟩ := v.steps_of_preview hpreview 0 ss (p := .start state) rfl
  rw [run, attempt_of_opens (.plain hplain), hplain]
  cases hsteps : v.steps 0 ss (.start state) with
  | mk fault q =>
    rw [hsteps] at hcontext houtputs
    cases fault with
    | none =>
      change Except.ok (v.result q.outputs) = _
      rw [hresult, ← List.append_nil q.outputs]
      exact congrArg Except.ok houtputs
    | some fault =>
      change Except.ok (v.failedResult (q.outputs ++ [failureRecord fault.message q.context])) = _
      rw [hfailed, hcontext]
      exact congrArg Except.ok houtputs

end Runner

/-! ### What is executed -/

/-- Whether a call executes a statement. -/
def Call.isExecution : Call → Bool
  | .execute .. => true
  | _ => false

/-- The executions of a run, in order. -/
def Progress.executions (p : Progress σ) : List Call := p.calls.filter Call.isExecution

theorem Progress.executions_called (p : Progress σ) (call : Call) (state : σ) :
    (p.called call state).executions =
      p.executions ++ if call.isExecution then [call] else [] := by
  rw [executions, called, List.filter_append, List.filter_cons, List.filter_nil]
  rfl

namespace Runner

variable {r : Runner σ} {ss : List Step} {state : σ} {p : Progress σ}

theorem executions_close (r : Runner σ) (o : Outcome σ) :
    (r.close o).2.executions = o.progress.executions := by
  unfold close
  split
  · exact (o.progress.executions_called .rollback _).trans (List.append_nil _)
  · rfl

theorem executions_withinTransaction (r : Runner σ) (ss : List Step) (p : Progress σ) :
    (r.withinTransaction ss p).progress.executions = (r.steps 0 ss p).2.executions := by
  unfold withinTransaction
  cases r.steps 0 ss p with
  | mk fault q =>
    cases fault with
    | some fault => rfl
    | none =>
      have hcommit : (r.commit q).2.executions = q.executions :=
        (q.executions_called .commit _).trans (List.append_nil _)
      dsimp only
      cases hc : r.commit q with
      | mk answer m =>
        rw [hc] at hcommit
        cases answer with
        | error fault => exact hcommit
        | ok _ => exact hcommit

/-- Nothing has been executed when the steps of a run begin. -/
theorem Opens.executions_eq (h : r.Opens state p) : p.executions = [] := by
  cases h with
  | plain => rfl
  | transaction _ hbegin =>
    have hp : p = (r.begin (.start state)).2 := by rw [hbegin]
    rw [hp]
    exact (Progress.start state).executions_called .begin _

/-- A run executes what its steps do. -/
theorem executions_run (h : r.Opens state p) (ss : List Step) :
    (r.run ss state).2.executions = (r.steps 0 ss p).2.executions := by
  have hattempt : (r.attempt ss (.start state)).progress.executions =
      (r.steps 0 ss p).2.executions := by
    rw [attempt_of_opens h]
    split
    · exact r.executions_withinTransaction ss p
    · rfl
  rw [← hattempt, ← r.executions_close (r.attempt ss (.start state))]
  unfold run
  dsimp only
  cases hfault : (r.attempt ss (.start state)).fault with
  | none => exact (r.executions_close _).symm
  | some fault =>
    dsimp only
    cases r.close (r.attempt ss (.start state)) with
    | mk answer m =>
      cases answer with
      | error e => rfl
      | ok _ => rfl

/-- Whether an execution is that of a statement, as it has been checked. -/
def Sends (r : Runner σ) (b : BoundStatement) (call : Call) : Prop :=
  ∃ sql, r.sanitize b.sql r.settings.rowLimit r.settings.selectOnly = .ok sql ∧
    call = .execute sql b.values r.settings.rowLimit

/-- A step that has a result sends its statement, unless that cannot match anything. -/
theorem Yields.sends {i : Nat} {s : Step} {v : Json} {q : Progress σ} (h : r.Yields i s p v q) :
    ∃ b, s.bind p.context = .ok b ∧
      (b.empty = true ∧ q.executions = p.executions ∨
        b.empty = false ∧ ∃ call, r.Sends b call ∧ q.executions = p.executions ++ [call]) := by
  cases h with
  | @skipped b hbind hempty => exact ⟨b, hbind, .inl ⟨hempty, rfl⟩⟩
  | @executed b sql _ _ hbind hempty hcheck =>
    have hsent : (r.send sql b.values p).2.executions =
        p.executions ++ [.execute sql b.values r.settings.rowLimit] :=
      p.executions_called (.execute sql b.values r.settings.rowLimit) _
    exact ⟨b, hbind, .inr ⟨hempty, _, ⟨sql, hcheck, rfl⟩, hsent⟩⟩

/-- Steps that refer to nothing and come to their results send the statements that they make without
any results, less those that cannot match anything. -/
theorem Finishes.sends {k : Nat} {q : Progress σ} (h : r.Finishes k ss p q)
    (hclosed : ∀ s ∈ ss, s.Closed) :
    ∃ bs calls, MakeAlone ss bs ∧ q.executions = p.executions ++ calls ∧
      List.Forall₂ r.Sends (bs.filter (!·.empty)) calls := by
  induction h with
  | nil => exact ⟨[], [], .nil, (List.append_nil _).symm, .nil⟩
  | @cons k s ss v p m q hyields _ ih =>
    obtain ⟨bs, calls, hbs, hcalls, hsends⟩ := ih fun t ht => hclosed t (List.mem_cons_of_mem s ht)
    obtain ⟨b, hbind, hb⟩ := hyields.sends
    -- The context does not count, so the step makes the same statement without it.
    rw [(hclosed s List.mem_cons_self).bind_eq p.context .empty] at hbind
    obtain ⟨hempty, hm⟩ | ⟨hempty, call, hcall, hm⟩ := hb
    · refine ⟨b :: bs, calls, .cons hbind hbs, hm ▸ hcalls, ?_⟩
      rwa [List.filter_cons_of_neg (by simp [hempty])]
    · refine ⟨b :: bs, call :: calls, .cons hbind hbs, ?_, ?_⟩
      · rw [List.append_cons p.executions, ← hm]
        exact hcalls
      · rw [List.filter_cons_of_pos (by simp [hempty])]
        exact .cons hcall hsends

/-- Whether the steps of a run begin and none of them fails. -/
def Completes (r : Runner σ) (ss : List Step) (state : σ) : Prop :=
  ∃ p, r.Opens state p ∧ (r.steps 0 ss p).1 = none

end Runner

/-! ### What a preview tells -/

/-- What a record of a preview tells of an execution: its text, before it is checked, and its
values, by their places from 1 on. -/
def Tells (d : Dialect) (settings : RunSettings) (record : Json) (call : Call) : Prop :=
  ∃ sql values checked, record.field? "sql" = some (.string sql) ∧
    record.field? "parameters" = some (.array (values.mapIdx previewParameter)) ∧
    d.sanitize sql settings.rowLimit settings.selectOnly = .ok checked ∧
    call = .execute checked values settings.rowLimit

theorem field?_previewRecord (b : BoundStatement) :
    (previewRecord b).field? "sql" = some (.string b.sql) ∧
      (previewRecord b).field? "parameters" =
        some (.array (b.values.mapIdx previewParameter)) := by
  simp [previewRecord, Json.record, Json.field?, Keyed.ofList, Keyed.merge, Keyed.get?_insert]

namespace Runner

variable {store : Store σ} {d : Dialect} {settings : RunSettings}
  {transform : String → Json → Context → Nat → Except RunFault Json}

theorem Sends.tells {b : BoundStatement} {call : Call}
    (h : { standard store d settings with transform }.Sends b call) :
    Tells d settings (previewRecord b) call := by
  obtain ⟨checked, hcheck, rfl⟩ := h
  obtain ⟨hsql, hparameters⟩ := field?_previewRecord b
  simp only [standard] at hcheck
  exact ⟨b.sql, b.values, checked, hsql, hparameters, mapError_eq_ok hcheck, rfl⟩

/-- **A preview tells what a run executes.**  Whatever its store and its other settings are, a
preview shows the steps, each by itself.  If no step refers to anything, then for a run in which
none fails it shows every statement, and the run executes just these, in order and as they are
checked, less those that cannot match anything. -/
theorem run_previewed (store : Store σ) (d : Dialect) (settings : RunSettings)
    (transform : String → Json → Context → Nat → Except RunFault Json) (v : Runner τ)
    (hsettings : settings.preview = false) (hpreview : v.settings.preview = true) (ss : List Step)
    (state : σ) (idle : τ) :
    (v.run ss idle).1 = .ok (previews 0 ss) ∧
    (∀ i output, (previews 0 ss)[i]? = some output →
      ∃ s : Step, ss[i]? = some s ∧ output = s.preview i) ∧
    ((∀ s ∈ ss, s.Closed) →
      { Runner.standard store d settings with transform }.Completes ss state →
      ∃ bs, MakeAlone ss bs ∧
        (v.run ss idle).1 = .ok (bs.mapIdx fun i b => stepOutput i (previewRecord b)) ∧
        List.Forall₂ (fun b call => Tells d settings (previewRecord b) call)
          (bs.filter (!·.empty))
          ({ Runner.standard store d settings with transform }.run ss state).2.executions) := by
  have hv := run_of_preview hpreview ss idle
  refine ⟨hv, fun i output h => ?_, ?_⟩
  · obtain ⟨s, hs, rfl⟩ := exists_of_getElem?_previews h
    exact ⟨s, hs, by rw [Nat.zero_add]⟩
  rintro hclosed ⟨p, hopens, hnone⟩
  have hfinishes := steps_finishes hsettings (Prod.ext hnone rfl)
  obtain ⟨bs, calls, hbs, hcalls, hsends⟩ := hfinishes.sends hclosed
  refine ⟨bs, hbs, ?_, ?_⟩
  · rw [hv, hbs.previews_eq]
    simp only [Nat.zero_add]
  · rw [executions_run hopens, hcalls, hopens.executions_eq, List.nil_append]
    exact hsends.imp fun b call h => h.tells

/-- A step that cannot match anything, and one with a text that only looks like a reference. -/
def unmatchedThenRead : List Step :=
  [⟨"DELETE FROM t WHERE a IN (?)", [⟨.string, .array []⟩], none⟩,
    ⟨"SELECT a FROM t WHERE b = ?", [⟨.string, .string "$\x7b\x7d"⟩], none⟩]

theorem closed_unmatchedThenRead : ∀ s ∈ unmatchedThenRead, s.Closed := by
  rw [unmatchedThenRead, List.forall_mem_cons, List.forall_mem_singleton]
  constructor
  · rintro p hp text htext
    obtain rfl := List.mem_singleton.1 hp
    cases htext
  · rintro p hp text htext
    obtain rfl := List.mem_singleton.1 hp
    obtain rfl := Json.string.inj htext
    exact mt any_splitReferences_iff.2 (by decide +kernel)

/-- Two records of which one tells of an execution. -/
theorem run_previewed_unmatched :
    ((standard .closed .db2 { preview := true }).run unmatchedThenRead ()).1.toOption.map
        (·.map Json.text) =
      some ["\x7b\"output0\":\x7b\"parameters\":[],\"placeholders\":1," ++
          "\"sql\":\"DELETE FROM t WHERE a IN (?)\",\"valid\":true\x7d\x7d",
        "\x7b\"output1\":\x7b\"parameters\":" ++
          "[\x7b\"index\":1,\"value\":\"$\x7b\x7d\"\x7d],\"placeholders\":1," ++
          "\"sql\":\"SELECT a FROM t WHERE b = ?\",\"valid\":true\x7d\x7d"] ∧
    ({ standard (.scripted (.ok ()) (.ok ()) (.ok ())) .db2 {} with
        transform := fun _ raw _ _ => .ok raw }.run unmatchedThenRead []).2.executions =
      [.execute "SELECT a FROM t WHERE b = ? FETCH FIRST 200 ROWS ONLY" [.text "$\x7b\x7d"] 200] ∧
    ∃ bs : List BoundStatement,
      ((standard .closed .db2 { preview := true }).run unmatchedThenRead ()).1 =
        .ok (bs.mapIdx fun i b => stepOutput i (previewRecord b)) ∧
      List.Forall₂ (fun b call => Tells .db2 {} (previewRecord b) call) (bs.filter (!·.empty))
        [.execute "SELECT a FROM t WHERE b = ? FETCH FIRST 200 ROWS ONLY"
          [.text "$\x7b\x7d"] 200] := by
  have hexecutions : ({ standard (.scripted (.ok ()) (.ok ()) (.ok ())) .db2 {} with
        transform := fun _ raw _ _ => .ok raw }.run unmatchedThenRead []).2.executions =
      [.execute "SELECT a FROM t WHERE b = ? FETCH FIRST 200 ROWS ONLY"
        [.text "$\x7b\x7d"] 200] := by
    decide +kernel
  have hsteps : ({ standard (.scripted (.ok ()) (.ok ()) (.ok ())) .db2 {} with
      transform := fun _ raw _ _ => .ok raw }.steps 0 unmatchedThenRead
        (.start [])).1.isNone = true := by
    decide +kernel
  obtain ⟨-, -, htells⟩ := run_previewed (.scripted (.ok ()) (.ok ()) (.ok ())) .db2 {}
    (fun _ raw _ _ => .ok raw) (standard .closed .db2 { preview := true }) rfl rfl
    unmatchedThenRead [] ()
  obtain ⟨bs, -, hrecords, hcalls⟩ := htells closed_unmatchedThenRead
    ⟨.start [], .plain rfl, Option.isNone_iff_eq_none.1 hsteps⟩
  rw [hexecutions] at hcalls
  exact ⟨by decide +kernel, hexecutions, bs, hrecords, hcalls⟩

end Runner

end BoundQuery
