import BoundQuery.Proofs.Clause.Comparison
import Mathlib.Logic.Relation

/-!
# Conditions that are suppressed

A condition on the column `*`, or with the SQL text `*`, is a *sentinel*: it stands for no condition
at all, whatever else it says.  A WHERE clause is that of the other conditions.

* `Condition.Sentinel` : the sentinels, shape by shape;
* `withoutSentinels` : groups without their sentinels, and without the groups that have nothing
  else;
* `Sprinkled` : sentinels that are put into groups, or between them in groups of their own;
* `Scope.exists_isEmpty_condition_iff` : a condition compiles to nothing exactly if it is a
  sentinel;
* `Scope.whereClause_eq` : **a WHERE clause is put together from the conditions that are no
  sentinels**;
* `Scope.whereClause_sentinels` : **sentinels leave no trace**, neither in the text and the values
  nor in the fault.
-/

namespace BoundQuery

open Text

/-! ### Sentinels -/

/-- Whether a condition stands for none. -/
inductive Condition.Sentinel : Condition → Prop
  /-- A test of the column `*`. -/
  | test (operator : Operator) (value : Json) (values : List Json) :
    Sentinel (.test "*" operator value values)
  /-- The column `*` in a list. -/
  | membership (negated : Bool) (values : List Json) : Sentinel (.membership negated "*" values)
  /-- The column `*` in a range. -/
  | range (negated : Bool) (values : List Json) : Sentinel (.range negated "*" values)
  /-- The subquery `*`, with or without blanks around it. -/
  | subquery (negated : Bool) {sql : String} (h : trim sql = "*") : Sentinel (.subquery negated sql)
  /-- The SQL text `*`, with or without blanks around it. -/
  | expression {sql : String} (h : trim sql = "*") : Sentinel (.expression sql)

theorem isSuppressed_iff {c : Condition} : Scope.isSuppressed c = true ↔ c.Sentinel := by
  cases c with
  | test name operator value values =>
    simp only [Scope.isSuppressed, decide_eq_true_eq]
    constructor
    · rintro rfl
      exact .test operator value values
    · rintro ⟨⟩
      rfl
  | membership negated name values =>
    simp only [Scope.isSuppressed, decide_eq_true_eq]
    constructor
    · rintro rfl
      exact .membership negated values
    · rintro ⟨⟩
      rfl
  | range negated name values =>
    simp only [Scope.isSuppressed, decide_eq_true_eq]
    constructor
    · rintro rfl
      exact .range negated values
    · rintro ⟨⟩
      rfl
  | subquery negated sql =>
    simp only [Scope.isSuppressed, decide_eq_true_eq]
    exact ⟨.subquery negated, fun | .subquery _ h => h⟩
  | expression sql =>
    simp only [Scope.isSuppressed, decide_eq_true_eq]
    exact ⟨.expression, fun | .expression h => h⟩

instance (c : Condition) : Decidable c.Sentinel := decidable_of_iff _ isSuppressed_iff

/-- The group without its sentinels. -/
def Group.active (g : Group) : Group := ⟨g.connector, g.conditions.filter fun c => ¬ c.Sentinel⟩

/-- Groups without their sentinels, and without the groups that have no condition left. -/
def withoutSentinels (groups : List Group) : List Group :=
  (groups.map Group.active).filter fun g => ¬ g.conditions.isEmpty

/-- A sentinel is put into a group, or a group of sentinels between the groups. -/
inductive Sprinkled : List Group → List Group → Prop
  /-- A sentinel at any place of a group. -/
  | condition (before after : List Group) (connector : Connector) (cs ds : List Condition)
    {c : Condition} (h : c.Sentinel) :
    Sprinkled (before ++ ⟨connector, cs ++ ds⟩ :: after)
      (before ++ ⟨connector, cs ++ c :: ds⟩ :: after)
  /-- A group at any place that has sentinels only, or nothing. -/
  | group (before after : List Group) (connector : Connector) {cs : List Condition}
    (h : ∀ c ∈ cs, c.Sentinel) :
    Sprinkled (before ++ after) (before ++ ⟨connector, cs⟩ :: after)

/-- Where no sentinel is left, none is taken out. -/
theorem withoutSentinels_idem (groups : List Group) :
    withoutSentinels (withoutSentinels groups) = withoutSentinels groups := by
  have hactive : ∀ g : Group, g.active.active = g.active := by
    intro g
    simp [Group.active, List.filter_filter]
  simp [withoutSentinels, List.filter_map, Function.comp_def, hactive, List.filter_filter]

/-- What is put in is taken out. -/
theorem Sprinkled.withoutSentinels_eq {groups more : List Group} (h : Sprinkled groups more) :
    withoutSentinels more = withoutSentinels groups := by
  cases h with
  | @condition before after connector cs ds c h =>
    have hactive : Group.active ⟨connector, cs ++ c :: ds⟩ =
        Group.active ⟨connector, cs ++ ds⟩ := by simp [Group.active, h]
    simp only [withoutSentinels, List.map_append, List.map_cons, hactive]
  | @group before after connector cs h =>
    have hnone : (Group.active ⟨connector, cs⟩).conditions = [] := by
      simpa [Group.active] using h
    simp [withoutSentinels, hnone]

/-! ### Answers that are dropped -/

/-- If the answers to some members of a list are dropped, the others are all that count. -/
theorem map_filterMap_mapM {ε α β γ : Type} {f : α → Except ε β} {g : β → Option γ}
    {h : α → Except ε γ} {p : α → Bool} (hdrop : ∀ x, p x = false → (f x).map g = .ok none)
    (hkeep : ∀ x, p x = true → (f x).map g = (h x).map some) (xs : List α) :
    (xs.mapM f).map (List.filterMap g) = (xs.filter p).mapM h := by
  induction xs with
  | nil => rfl
  | cons x xs ih =>
    have hstep : ((x :: xs).mapM f).map (List.filterMap g) =
        (f x).map g >>= fun y => ((xs.mapM f).map (List.filterMap g)).map (y.toList ++ ·) := by
      rw [List.mapM_cons]
      cases f x with
      | error e => rfl
      | ok y =>
        cases xs.mapM f with
        | error e => rfl
        | ok ys => cases hg : g y <;> simp [bind, Except.bind, Except.map, pure, Except.pure, hg]
    rw [hstep, ih]
    cases hp : p x with
    | false =>
      rw [hdrop x hp, List.filter_cons_of_neg (by simp [hp])]
      cases (xs.filter p).mapM h <;> rfl
    | true =>
      rw [hkeep x hp, List.filter_cons_of_pos hp, List.mapM_cons]
      cases h x with
      | error e => rfl
      | ok y => cases (xs.filter p).mapM h <;> rfl

/-! ### What is compiled -/

namespace Scope

variable {s : Scope}

theorem isEmpty_test {c : Column} {operator : Operator} {value : Json} {values : List Json}
    {f : Fragment} (h : s.test c operator value values = .ok f) : f.isEmpty = false := by
  -- Every test ends in a text of its own.
  cases operator with
  | equal | notEqual | greater | less | greaterEqual | lessEqual =>
    simp only [test, comparison] at h
    split at h
    · cases h
      exact Comparison.isEmpty_append _ (.inr (by decide))
    · cases h
  | like | notLike | contains =>
    simp only [test, pattern] at h
    split at h
    · cases h
      exact Comparison.isEmpty_append _ (.inr (by decide))
    · cases h
  | inList | notInList =>
    simp only [test, membership] at h
    split at h
    · cases h
    · obtain ⟨bound, -, rfl⟩ := map_eq_ok_iff.1 h
      exact Comparison.isEmpty_append _ (.inr (by decide))
  | between | notBetween =>
    simp only [test, range] at h
    split at h
    · obtain ⟨bound, -, rfl⟩ := map_eq_ok_iff.1 h
      exact Comparison.isEmpty_append _ (.inr (by decide))
    · cases h
  | isNull | isNotNull =>
    cases h
    exact Comparison.isEmpty_append _ (.inr (by decide))

/-- A list test is the test of a column by an operator. -/
theorem membership_eq_test (c : Column) (values : List Json) (negated : Bool) :
    s.membership c values negated =
      s.test c (if negated then .notInList else .inList) .null values := by
  cases negated <;> rfl

/-- A range test is the test of a column by an operator. -/
theorem range_eq_test (c : Column) (values : List Json) (negated : Bool) :
    s.range c values negated =
      s.test c (if negated then .notBetween else .between) .null values := by
  cases negated <;> rfl

theorem isEmpty_activeCondition {c : Condition} {f : Fragment}
    (h : s.activeCondition c = .ok f) : f.isEmpty = false := by
  cases c with
  | test name operator value values =>
    obtain ⟨column, -, htest⟩ := bind_eq_ok_iff.1 h
    exact isEmpty_test htest
  | membership negated name values =>
    obtain ⟨column, -, htest⟩ := bind_eq_ok_iff.1 h
    rw [membership_eq_test] at htest
    exact isEmpty_test htest
  | range negated name values =>
    obtain ⟨column, -, htest⟩ := bind_eq_ok_iff.1 h
    rw [range_eq_test] at htest
    exact isEmpty_test htest
  | subquery negated sql =>
    simp only [activeCondition] at h
    split at h
    · cases h
      exact Comparison.isEmpty_append _ (.inr (by decide))
    · cases h
  | expression sql =>
    simp only [activeCondition] at h
    split at h
    · cases h
      exact Comparison.isEmpty_append _ (.inr (by decide))
    · cases h

theorem condition_of_sentinel {c : Condition} (h : c.Sentinel) : s.condition c = .ok .empty := by
  rw [condition, if_pos (isSuppressed_iff.2 h)]

theorem condition_of_not_sentinel {c : Condition} (h : ¬ c.Sentinel) :
    s.condition c = s.activeCondition c := by
  rw [condition, if_neg (mt isSuppressed_iff.1 h)]

/-- A condition compiles to nothing exactly if it is a sentinel. -/
theorem exists_isEmpty_condition_iff {c : Condition} :
    (∃ f, s.condition c = .ok f ∧ f.isEmpty = true) ↔ c.Sentinel := by
  constructor
  · rintro ⟨f, hf, hempty⟩
    by_contra hc
    rw [condition_of_not_sentinel hc] at hf
    rw [isEmpty_activeCondition hf] at hempty
    cases hempty
  · intro hc
    exact ⟨.empty, condition_of_sentinel hc, rfl⟩

/-- The conditions of a group that are left are those that are no sentinels. -/
theorem mapM_active (s : Scope) (conditions : List Condition) :
    (conditions.mapM s.condition).map (List.filter fun f => !f.isEmpty) =
      (conditions.filter fun c => ¬ c.Sentinel).mapM s.condition := by
  rw [← List.filterMap_eq_filter]
  refine map_filterMap_mapM (fun c hc => ?_) (fun c hc => ?_) conditions
  · rw [condition_of_sentinel (by simpa using hc)]
    rfl
  · rw [condition_of_not_sentinel (by simpa using hc)]
    cases hf : s.activeCondition c with
    | error fault => rfl
    | ok f => simp [Except.map, Option.guard, isEmpty_activeCondition hf]

/-- A group that has conditions, none of which is a sentinel. -/
def fullGroup (s : Scope) (g : Group) : Except ClauseFault (Connector × Fragment) :=
  (g.conditions.mapM s.condition).map fun parts => (g.connector, groupBody g.connector parts)

theorem group?_eq (s : Scope) (g : Group) :
    s.group? g =
      if g.active.conditions.isEmpty then .ok none else (s.fullGroup g.active).map some := by
  have hgroup : s.group? g =
      ((g.conditions.mapM s.condition).map (List.filter fun f => !f.isEmpty)).map fun left =>
        if left.isEmpty then none else some (g.connector, groupBody g.connector left) := by
    rw [group?]
    cases g.conditions.mapM s.condition <;> rfl
  rw [hgroup, mapM_active]
  change Except.map _ (g.active.conditions.mapM s.condition) = _
  cases hactive : g.active.conditions with
  | nil => rfl
  | cons c cs =>
    rw [fullGroup, hactive]
    cases hparts : (c :: cs).mapM s.condition with
    | error fault => rfl
    | ok parts =>
      -- There is one part for each condition, so there is one.
      have hlength := (mapM_eq_ok_iff.1 hparts).length_eq
      cases parts with
      | nil => cases hlength
      | cons p ps => rfl

/-- **A WHERE clause is put together from the conditions that are no sentinels.** -/
theorem whereClause_eq (s : Scope) (groups : List Group) :
    s.whereClause groups = ((withoutSentinels groups).mapM s.fullGroup).map joinGroups := by
  have hgroups : (groups.mapM s.group?).map (List.filterMap id) =
      (withoutSentinels groups).mapM s.fullGroup := by
    rw [withoutSentinels, List.filter_map, List.mapM_map]
    refine map_filterMap_mapM (fun g hg => ?_) (fun g hg => ?_) groups
    · rw [group?_eq, if_pos (by simpa using hg)]
      rfl
    · rw [group?_eq, if_neg (by simpa using hg), Function.comp_apply]
      cases s.fullGroup g.active <;> rfl
  rw [whereClause, ← hgroups]
  cases groups.mapM s.group? <;> rfl

/-- **Sentinels leave no trace.**  A WHERE clause is the one without them, with the same text and
values or the same fault; sentinels that are put in anywhere, any number of times, change nothing;
and nothing else compiles to nothing. -/
theorem whereClause_sentinels (s : Scope) (groups : List Group) :
    s.whereClause groups = s.whereClause (withoutSentinels groups) ∧
      (∀ more, Relation.ReflTransGen Sprinkled groups more →
        s.whereClause more = s.whereClause groups) ∧
      ∀ c, (∃ f, s.condition c = .ok f ∧ f.isEmpty = true) ↔ c.Sentinel := by
  refine ⟨?_, fun more h => ?_, fun c => exists_isEmpty_condition_iff⟩
  · rw [whereClause_eq, whereClause_eq s (withoutSentinels groups), withoutSentinels_idem]
  · have hsame : withoutSentinels more = withoutSentinels groups := by
      induction h with
      | refl => rfl
      | tail _ hstep ih => rw [hstep.withoutSentinels_eq, ih]
    rw [whereClause_eq, whereClause_eq s groups, hsame]

end Scope

end BoundQuery
