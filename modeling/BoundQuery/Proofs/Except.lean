import Mathlib.Data.List.Forall2

/-!
# Answers that may be faults

What is known of the parts of an answer when the whole is known.

* `map_eq_ok_iff`, `map_eq_error_iff`, `mapError_eq_ok_iff` : an answer that is changed on one of
  its two sides;
* `bind_eq_ok_iff`, `exists_bind_eq_ok_iff` : an answer that a second one depends on;
* `mapM_eq_ok_iff`, `mapM_append_eq_ok_iff`, `exists_mapM_eq_ok_iff`, `exists_of_mem_of_mapM_eq_ok`,
  `exists_of_mapM_eq_error` : the answers to the members of a list, one by one;
* `Agree` : two answers side by side; what is put together from answers that agree does
  (`Agree.map`, `Agree.bind`, `Agree.mapM`), and where no fault stands against a result, answers
  that agree can be made equal (`Agree.map_eq`).
-/

namespace BoundQuery

variable {ε ε' α β γ δ : Type}

theorem map_eq_ok_iff {f : α → β} {e : Except ε α} {b : β} :
    e.map f = .ok b ↔ ∃ a, e = .ok a ∧ f a = b := by
  cases e <;> simp [Except.map]

theorem map_eq_error_iff {f : α → β} {e : Except ε α} {fault : ε} :
    e.map f = .error fault ↔ e = .error fault := by
  cases e <;> simp [Except.map]

theorem mapError_eq_ok_iff {f : ε → ε'} {e : Except ε α} {a : α} :
    e.mapError f = .ok a ↔ e = .ok a := by
  cases e <;> simp [Except.mapError]

theorem mapError_eq_ok {f : ε → ε'} {e : Except ε α} {a : α} (h : e.mapError f = .ok a) :
    e = .ok a := mapError_eq_ok_iff.1 h

theorem toOption_eq_some_iff {e : Except ε α} {a : α} : e.toOption = some a ↔ e = .ok a := by
  cases e <;> simp [Except.toOption]

theorem bind_eq_ok_iff {f : α → Except ε β} {e : Except ε α} {b : β} :
    (e >>= f) = .ok b ↔ ∃ a, e = .ok a ∧ f a = .ok b := by
  cases e <;> simp [bind, Except.bind]

theorem not_exists_error {fault : ε} : ¬ ∃ a : α, Except.error fault = .ok a := by
  rintro ⟨_, ⟨⟩⟩

theorem exists_map_eq_ok_iff {f : α → β} {e : Except ε α} :
    (∃ b, e.map f = .ok b) ↔ ∃ a, e = .ok a := by
  cases e <;> simp [Except.map]

theorem exists_bind_eq_ok_iff {f : α → Except ε β} {e : Except ε α} :
    (∃ b, (e >>= f) = .ok b) ↔ ∃ a, e = .ok a ∧ ∃ b, f a = .ok b := by
  cases e <;> simp [bind, Except.bind]

/-- There are answers to all members of a list if there is one to each. -/
theorem mapM_eq_ok_iff {f : α → Except ε β} {xs : List α} {ys : List β} :
    xs.mapM f = .ok ys ↔ List.Forall₂ (fun x y => f x = .ok y) xs ys := by
  induction xs generalizing ys with
  | nil =>
    rw [List.mapM_nil, List.forall₂_nil_left_iff]
    exact ⟨fun h => (Except.ok.inj h).symm, fun h => h ▸ rfl⟩
  | cons x xs ih =>
    rw [List.mapM_cons, bind_eq_ok_iff, List.forall₂_cons_left_iff]
    refine exists_congr fun y => ?_
    rw [bind_eq_ok_iff]
    constructor
    · rintro ⟨hy, zs, hzs, heq⟩
      exact ⟨zs, hy, ih.1 hzs, (Except.ok.inj heq).symm⟩
    · rintro ⟨zs, hy, hzs, rfl⟩
      exact ⟨hy, zs, ih.2 hzs, rfl⟩

theorem mapM_cons_eq_ok_iff {f : α → Except ε β} {x : α} {xs : List α} {ys : List β} :
    (x :: xs).mapM f = .ok ys ↔ ∃ z zs, f x = .ok z ∧ xs.mapM f = .ok zs ∧ ys = z :: zs := by
  simp only [mapM_eq_ok_iff, List.forall₂_cons_left_iff, exists_and_left]

theorem mapM_append_eq_ok_iff {f : α → Except ε β} {as bs : List α} {ys : List β} :
    (as ++ bs).mapM f = .ok ys ↔
      ∃ cs ds, as.mapM f = .ok cs ∧ bs.mapM f = .ok ds ∧ ys = cs ++ ds := by
  induction as generalizing ys with
  | nil =>
    rw [List.nil_append, List.mapM_nil]
    constructor
    · exact fun h => ⟨[], ys, rfl, h, rfl⟩
    · rintro ⟨cs, ds, hcs, hds, rfl⟩
      obtain rfl : [] = cs := Except.ok.inj hcs
      exact hds
  | cons a as ih =>
    rw [List.cons_append, mapM_cons_eq_ok_iff]
    constructor
    · rintro ⟨c, zs, hc, hzs, rfl⟩
      obtain ⟨cs, ds, hcs, hds, rfl⟩ := ih.1 hzs
      exact ⟨c :: cs, ds, mapM_cons_eq_ok_iff.2 ⟨c, cs, hc, hcs, rfl⟩, hds, rfl⟩
    · rintro ⟨zs, ds, hzs, hds, rfl⟩
      obtain ⟨c, cs, hc, hcs, rfl⟩ := mapM_cons_eq_ok_iff.1 hzs
      exact ⟨c, cs ++ ds, hc, ih.2 ⟨cs, ds, hcs, hds, rfl⟩, rfl⟩

theorem exists_mapM_eq_ok_iff {f : α → Except ε β} {xs : List α} :
    (∃ ys, xs.mapM f = .ok ys) ↔ ∀ x ∈ xs, ∃ y, f x = .ok y := by
  simp only [mapM_eq_ok_iff]
  induction xs with
  | nil => simp
  | cons x xs ih =>
    rw [List.forall_mem_cons, ← ih]
    constructor
    · rintro ⟨_, hy | ⟨hy, hys⟩⟩
      exact ⟨⟨_, hy⟩, _, hys⟩
    · rintro ⟨⟨y, hy⟩, ys, hys⟩
      exact ⟨y :: ys, .cons hy hys⟩

/-- Every member of a list has its answer among all answers. -/
theorem exists_of_mem_of_mapM_eq_ok {f : α → Except ε β} {xs : List α} {ys : List β}
    (h : xs.mapM f = .ok ys) {x : α} (hx : x ∈ xs) : ∃ y ∈ ys, f x = .ok y := by
  induction mapM_eq_ok_iff.1 h with
  | nil => cases hx
  | cons hy hys ih =>
    rcases List.mem_cons.1 hx with rfl | hx
    · exact ⟨_, List.mem_cons_self, hy⟩
    · obtain ⟨y, hmem, hy⟩ := ih (mapM_eq_ok_iff.2 hys) hx
      exact ⟨y, List.mem_cons_of_mem _ hmem, hy⟩

/-- Every answer is one to a member of the list. -/
theorem exists_of_mem_answers {f : α → Except ε β} {xs : List α} {ys : List β}
    (h : xs.mapM f = .ok ys) {y : β} (hy : y ∈ ys) : ∃ x ∈ xs, f x = .ok y := by
  induction mapM_eq_ok_iff.1 h with
  | nil => cases hy
  | cons hx hxs ih =>
    rcases List.mem_cons.1 hy with rfl | hy
    · exact ⟨_, List.mem_cons_self, hx⟩
    · obtain ⟨x, hmem, hx⟩ := ih (mapM_eq_ok_iff.2 hxs) hy
      exact ⟨x, List.mem_cons_of_mem _ hmem, hx⟩

/-- A fault of a list is one of its members. -/
theorem exists_of_mapM_eq_error {f : α → Except ε β} {xs : List α} {fault : ε}
    (h : xs.mapM f = .error fault) : ∃ x ∈ xs, f x = .error fault := by
  induction xs with
  | nil => cases h
  | cons x xs ih =>
    rw [List.mapM_cons] at h
    cases hx : f x with
    | error e =>
      rw [hx] at h
      cases h
      exact ⟨x, List.mem_cons_self, hx⟩
    | ok y =>
      rw [hx] at h
      cases hxs : xs.mapM f with
      | error e =>
        change (xs.mapM f >>= fun ys => pure (y :: ys)) = _ at h
        rw [hxs] at h
        cases h
        obtain ⟨z, hz, hfault⟩ := ih hxs
        exact ⟨z, List.mem_cons_of_mem x hz, hfault⟩
      | ok ys =>
        change (xs.mapM f >>= fun ys => pure (y :: ys)) = _ at h
        rw [hxs] at h
        cases h

/-! ### Two answers -/

variable {left right : Prop} {R : α → β → Prop} {S : γ → δ → Prop}

/-- Whether two answers agree: two results are related, and two faults are the same.  If `left`
holds, a fault on the left may stand against anything; if `right` does, one on the right may. -/
def Agree (left right : Prop) (R : α → β → Prop) : Except ε α → Except ε β → Prop
  | .ok a, .ok b => R a b
  | .error _, .ok _ => left
  | .ok _, .error _ => right
  | .error e, .error e' => e = e' ∨ left ∨ right

namespace Agree

theorem fault (e : ε) : Agree left right R (.error e) (.error e) := .inl rfl

/-- An answer agrees with itself. -/
theorem refl (x : Except ε α) : Agree left right Eq x x := by
  cases x with
  | ok a => exact Eq.refl a
  | error e => exact .fault e

/-- Nothing is known of answers whose faults may stand against anything. -/
theorem free (x : Except ε α) (y : Except ε β) : Agree True True (fun _ _ => True) x y := by
  cases x <;> cases y
  case error.error => exact .inr (.inl trivial)
  all_goals trivial

/-- If no fault may stand against a result, there are two faults or two results. -/
theorem fault_or_ok {x : Except ε α} {y : Except ε β} (h : Agree False False R x y) :
    (∃ e, x = .error e ∧ y = .error e) ∨ ∃ a b, x = .ok a ∧ y = .ok b ∧ R a b := by
  cases x <;> cases y
  case ok.ok a b => exact .inr ⟨a, b, rfl, rfl, h⟩
  case error.error e e' =>
    obtain rfl := h.resolve_right (not_or_intro id id)
    exact .inl ⟨e, rfl, rfl⟩
  all_goals exact h.elim

/-- If no fault may stand against a result, related results that become equal make equal answers. -/
theorem map_eq {f : α → γ} {g : β → γ} {x : Except ε α} {y : Except ε β}
    (h : Agree False False R x y) (hfg : ∀ a b, R a b → f a = g b) : x.map f = y.map g := by
  obtain ⟨e, rfl, rfl⟩ | ⟨a, b, rfl, rfl, hab⟩ := h.fault_or_ok
  · rfl
  · exact congrArg Except.ok (hfg a b hab)

theorem trans {z : Except ε γ} {T : β → γ → Prop} {x : Except ε α} {y : Except ε β}
    (h : Agree False False R x y) (h' : Agree False False T y z) :
    Agree False False (fun a c => ∃ b, R a b ∧ T b c) x z := by
  obtain ⟨e, rfl, rfl⟩ | ⟨a, b, rfl, rfl, hab⟩ := h.fault_or_ok
  · cases z
    case error => exact h'
    case ok => exact h'.elim
  · cases z
    case error => exact h'.elim
    case ok c => exact ⟨b, hab, h'⟩

theorem imp {T : α → β → Prop} {x : Except ε α} {y : Except ε β} (h : Agree left right R x y)
    (hRT : ∀ a b, R a b → T a b) : Agree left right T x y := by
  cases x <;> cases y
  case ok.ok a b => exact hRT a b h
  all_goals exact h

theorem map {f : α → γ} {g : β → δ} {x : Except ε α} {y : Except ε β} (h : Agree left right R x y)
    (hfg : ∀ a b, R a b → S (f a) (g b)) : Agree left right S (x.map f) (y.map g) := by
  cases x <;> cases y
  case ok.ok a b => exact hfg a b h
  all_goals exact h

theorem mapError {f : ε → ε'} {x : Except ε α} {y : Except ε β} (h : Agree left right R x y) :
    Agree left right R (x.mapError f) (y.mapError f) := by
  cases x <;> cases y
  case error.error e e' => exact h.imp_left (congrArg f)
  all_goals exact h

theorem bind {f : α → Except ε γ} {g : β → Except ε δ} {x : Except ε α} {y : Except ε β}
    (h : Agree left right R x y) (hfg : ∀ a b, R a b → Agree left right S (f a) (g b)) :
    Agree left right S (x >>= f) (y >>= g) := by
  cases x with
  | ok a =>
    cases y with
    | ok b => exact hfg a b h
    | error e =>
      change Agree left right S (f a) (.error e)
      cases f a
      · exact .inr (.inr h)
      · exact h
  | error e =>
    cases y with
    | ok b =>
      change Agree left right S (.error e) (g b)
      cases g b
      · exact .inr (.inl h)
      · exact h
    | error e' => exact h

theorem mapM {f : α → Except ε γ} {g : β → Except ε δ} {xs : List α} {ys : List β}
    (h : List.Forall₂ R xs ys) (hfg : ∀ a b, R a b → Agree left right S (f a) (g b)) :
    Agree left right (List.Forall₂ S) (xs.mapM f) (ys.mapM g) := by
  induction h with
  | nil => exact .nil
  | cons hab _ ih =>
    rw [List.mapM_cons, List.mapM_cons]
    exact (hfg _ _ hab).bind fun c d hcd => ih.bind fun cs ds hcsds => .cons hcd hcsds

end Agree

end BoundQuery
