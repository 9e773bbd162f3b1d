import BoundQuery.Proofs.Binding.Filling
import BoundQuery.Proofs.Except
import BoundQuery.Proofs.Pipeline.Ends
import BoundQuery.Proofs.Pipeline.Protocol

/-!
# One value per placeholder

Binding gives a statement as many values as it has placeholders, but what is executed is the
statement after the check, which cuts off both ends and may add a clause.  Neither makes a
difference for the placeholders: a reader of a text looks back only, so what is cut off or added at
the end without a `?` is not noticed, and blanks in front of a text leave its reader in code.

* `placeholderCount_stripped`, `placeholderCount_sanitize` : **the check leaves the number of
  placeholders alone**;
* `run_balanced` : **every statement that a run executes has as many placeholders as values**, and
  they are the values of a statement that was bound.
-/

namespace BoundQuery

open Text

/-! ### The check -/

theorem isCalm_of_isGap {c : Char} (h : isGap c = true) : Region.isCalm c = true ∧ c ≠ '?' :=
  isCalm_of (by decide) h

theorem placeholderCount_stripped (sql : String) :
    placeholderCount (stripped sql) = placeholderCount sql := by
  obtain ⟨front, back, hgap, hsplit⟩ := exists_stripped sql
  have hfront : ∀ c ∈ front, Region.isCalm c = true ∧ c ≠ '?' :=
    fun c hc => isCalm_of_isGap (hgap c (List.mem_append_left _ hc))
  have hback : '?' ∉ back := fun h => (isCalm_of_isGap (hgap _ (List.mem_append_right _ h))).2 rfl
  -- The reader of the statement is still in code where what is left of it begins.
  have hafter : Region.code.after front = .code := by
    by_cases hnil : front = []
    · rw [hnil, Region.after_nil]
    · exact Region.after_calm rfl hnil fun c hc => (hfront c hc).1
  rw [placeholderCount_eq, placeholderCount_eq, hsplit, Region.count_append, Region.count_append,
    Region.count_eq_zero _ hback, hafter, Region.count_eq_zero _ fun h => (hfront _ h).2 rfl,
    Nat.zero_add, Nat.add_zero]

/-- A clause without a `?` makes no difference. -/
theorem placeholderCount_append {sql clause : String} (h : '?' ∉ clause.toList) :
    placeholderCount (sql ++ clause) = placeholderCount sql := by
  rw [placeholderCount_eq, placeholderCount_eq, String.toList_append, Region.count_append,
    Region.count_eq_zero _ h, Nat.add_zero]

theorem not_mem_rowCap (d : Dialect) (limit : Nat) : '?' ∉ (d.rowCap limit).toList :=
  fun h => absurd (rowCap_chars d limit h) (by decide)

/-- **The check leaves the number of placeholders alone.** -/
theorem placeholderCount_sanitize {d : Dialect} {sql checked : String} {rowLimit : UInt64}
    {selectOnly : Bool} (h : d.sanitize sql rowLimit selectOnly = .ok checked) :
    placeholderCount checked = placeholderCount sql := by
  have hblank : '?' ∉ " ".toList := by decide
  unfold Dialect.sanitize at h
  dsimp only at h
  split at h
  · cases h
  split at h
  · cases h
  split at h
  · rw [← Except.ok.inj h, placeholderCount_append (not_mem_rowCap d _),
      placeholderCount_append hblank, placeholderCount_stripped]
  · rw [← Except.ok.inj h, placeholderCount_stripped]

/-! ### Runs -/

/-- A statement that was bound has as many placeholders as values. -/
theorem placeholders_of_bind {s : Step} {c : Context} {b : BoundStatement} (h : s.bind c = .ok b)
    (he : b.empty = false) : b.placeholders = b.values.length := by
  unfold Step.bind bindParameters at h
  split at h
  · cases h
  rename_i args hargs
  cases hb : bindTemplate s.sql args with
  | error fault =>
    rw [hb] at h
    cases h
  | ok bound =>
    rw [hb] at h
    cases h
    exact (eq_statement_of_bindTemplate hb he).2

/-- **Every statement that a run executes has as many placeholders as values**, whatever the store
answers and the transforms do.  They are the values of a statement that a step of the run gave in
its turn, whose text the check has passed. -/
theorem run_balanced {σ : Type} (store : Store σ) (d : Dialect) (settings : RunSettings)
    (transform : String → Json → Context → Nat → Except RunFault Json) (ss : List Step) (state : σ)
    {sql : String} {values : List BindValue} {limit : UInt64}
    (h : .execute sql values limit ∈
      ({ Runner.standard store d settings with transform }.run ss state).2.calls) :
    placeholderCount sql = values.length ∧
      ∃ s ∈ ss, ∃ c b, s.bind c = .ok b ∧ b.empty = false ∧ values = b.values ∧
        d.sanitize b.sql settings.rowLimit settings.selectOnly = .ok sql ∧
        placeholderCount sql = b.placeholders := by
  obtain ⟨p, i, s, q, b, hturn, hbind, hempty, hcheck, rfl⟩ := Runner.exists_turn_of_mem_calls h
  simp only [Runner.standard] at hcheck
  have hsanitize := mapError_eq_ok hcheck
  have hcount : placeholderCount sql = b.placeholders := placeholderCount_sanitize hsanitize
  exact ⟨hcount.trans (placeholders_of_bind hbind hempty), s, List.mem_of_getElem? hturn.1,
    q.context, b, hbind, hempty, rfl, hsanitize, hcount⟩

/-- A statement that loses its semicolon and gets a clause. -/
theorem run_balanced_capped :
    .execute "SELECT * FROM t WHERE a = ? FETCH FIRST 200 ROWS ONLY" [.text "x"] 200 ∈
      ({ Runner.standard (.scripted (.ok ()) (.ok ()) (.ok ())) .db2 {} with
          transform := fun _ raw _ _ => .ok raw }.run
        [⟨"SELECT * FROM t WHERE a = ?;", [⟨.string, .string "x"⟩], none⟩] []).2.calls ∧
    placeholderCount "SELECT * FROM t WHERE a = ? FETCH FIRST 200 ROWS ONLY" =
      [BindValue.text "x"].length := by
  have hcall : .execute "SELECT * FROM t WHERE a = ? FETCH FIRST 200 ROWS ONLY" [.text "x"] 200 ∈
      ({ Runner.standard (.scripted (.ok ()) (.ok ()) (.ok ())) .db2 {} with
          transform := fun _ raw _ _ => .ok raw }.run
        [⟨"SELECT * FROM t WHERE a = ?;", [⟨.string, .string "x"⟩], none⟩] []).2.calls := by
    decide +kernel
  exact ⟨hcall, (run_balanced _ _ _ _ _ _ hcall).1⟩

end BoundQuery
