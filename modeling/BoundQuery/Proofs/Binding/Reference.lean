import BoundQuery.Proofs.Binding.Splitting
import BoundQuery.Template.Statement

/-!
# Texts with references

Only a text can refer to the results of earlier steps.  Where no text among the parameters of a
step does, the context of the step does not count.

* `Refers` : a text with a reference somewhere in it, said without the scan that looks for one;
* `any_splitReferences_iff` : **the scan finds a reference if and only if there is one**;
* `Step.Closed` : a step none of whose parameters refers to anything;
* `Step.Closed.bind_eq` : such a step makes the same statement in every context.
-/

namespace BoundQuery

/-! ### References -/

/-- Whether a text has a reference: a path in braces behind a dollar sign.  The path is not empty
and ends at the first closing brace. -/
inductive Refers : List Char → Prop
  /-- One that the text starts with. -/
  | here {path : List Char} (after : List Char) (hpath : path ≠ []) (hinner : '\x7d' ∉ path) :
    Refers ('$' :: '\x7b' :: (path ++ '\x7d' :: after))
  /-- One that is further behind. -/
  | later (c : Char) {cs : List Char} (h : Refers cs) : Refers (c :: cs)

theorem refers_cons_iff {c : Char} {cs : List Char} :
    Refers (c :: cs) ↔ Refers cs ∨ ∃ path after, c = '$' ∧
      cs = '\x7b' :: (path ++ '\x7d' :: after) ∧ path ≠ [] ∧ '\x7d' ∉ path := by
  constructor
  · intro h
    cases h with
    | here after hpath hinner => exact .inr ⟨_, after, rfl, rfl, hpath, hinner⟩
    | later _ h => exact .inl h
  · rintro (h | ⟨path, after, rfl, rfl, hpath, hinner⟩)
    · exact .later c h
    · exact .here after hpath hinner

/-- A reference starts with its opening. -/
theorem refers_cons_of_ne {c d : Char} {cs : List Char} (h : ¬ (c = '$' ∧ d = '\x7b')) :
    Refers (c :: d :: cs) ↔ Refers (d :: cs) := by
  rw [refers_cons_iff, or_iff_left]
  rintro ⟨path, after, rfl, hcs, -⟩
  exact h ⟨rfl, List.head_eq_of_cons_eq hcs⟩

/-- A reference is closed. -/
theorem Refers.mem_closing {cs : List Char} (h : Refers cs) : '\x7d' ∈ cs := by
  induction h with
  | here => simp
  | later c _ ih => exact List.mem_cons_of_mem c ih

/-- A pair of braces with nothing between them is no reference, and hides none. -/
theorem refers_empty_iff {cs : List Char} :
    Refers ('$' :: '\x7b' :: '\x7d' :: cs) ↔ Refers cs := by
  rw [refers_cons_iff, or_iff_left, refers_cons_of_ne (by decide), refers_cons_iff,
    or_iff_left (fun ⟨_, _, hc, _⟩ => absurd hc (by decide))]
  rintro ⟨path, after, -, hcs, hpath, hinner⟩
  obtain ⟨c, path, rfl⟩ := List.exists_cons_of_ne_nil hpath
  -- The path would start with the closing brace.
  rw [List.cons_append, List.cons.injEq, List.cons.injEq] at hcs
  exact hinner (hcs.2.1 ▸ List.mem_cons_self)

/-! ### The scan -/

/-- A reference is opened. -/
theorem Refers.hasOpening {cs : List Char} (h : Refers cs) : HasOpening cs := by
  induction h with
  | here => exact hasOpening_cons_iff.2 (.inl ⟨rfl, rfl⟩)
  | later c _ ih => exact hasOpening_cons_iff.2 (.inr ih)

/-- What stands in front of the first opening has no reference. -/
theorem refers_append_iff {before after : List Char} (h : ¬ HasOpening before) :
    Refers (before ++ '$' :: '\x7b' :: after) ↔ Refers ('$' :: '\x7b' :: after) := by
  induction before with
  | nil => rfl
  | cons c before ih =>
    rw [hasOpening_cons_iff, not_or] at h
    rw [List.cons_append, refers_cons_iff, ih h.2, or_iff_left]
    rintro ⟨path, rest, hc, hcs, -⟩
    exact not_opening_append h.1 _ ⟨hc, congrArg List.head? hcs⟩

theorem any_literalPiece (cs : List Char) : (literalPiece cs).any Piece.isReference = false := by
  unfold literalPiece
  split <;> rfl

theorem Scans.any_iff {cs : List Char} {pieces : List Piece} (h : Scans cs pieces) :
    pieces.any Piece.isReference = true ↔ Refers cs := by
  induction h with
  | plain h =>
    rw [any_literalPiece]
    exact iff_of_false Bool.false_ne_true (mt Refers.hasOpening h)
  | unclosed hbefore hafter =>
    rw [refers_append_iff hbefore]
    refine iff_of_false Bool.false_ne_true fun h => hafter ?_
    simpa using h.mem_closing
  | empty hbefore _ ih =>
    rw [List.any_cons, refers_append_iff hbefore, refers_empty_iff, ← ih]
    rfl
  | reference hbefore hpath hinner _ _ =>
    rw [List.any_append, List.any_cons, refers_append_iff hbefore]
    exact iff_of_true (by simp [Piece.isReference]) (.here _ hpath hinner)

/-- **The scan finds a reference if and only if there is one.** -/
theorem any_splitReferences_iff {cs : List Char} :
    (splitReferences cs).any Piece.isReference = true ↔ Refers cs :=
  (scans_splitReferences cs).any_iff

/-! ### Steps without references -/

/-- A parameter that does not refer to anything: it is no text with a reference. -/
def Parameter.Closed (p : Parameter) : Prop :=
  ∀ text, p.value = .string text → ¬ Refers text.toList

/-- What does not refer to anything stays as it is. -/
theorem Parameter.Closed.interpolate_eq {p : Parameter} (h : p.Closed) (c : Context) :
    interpolate c p.value = .ok p.value := by
  unfold interpolate
  split
  · rename_i text hvalue
    rw [if_neg (mt any_splitReferences_iff.1 (h text hvalue)), hvalue]
  · rfl

theorem Parameter.Closed.argument_eq {p : Parameter} (h : p.Closed) (c : Context) :
    p.argument c = (normalize p.kind p.value).mapError .parameter := by
  rw [argument, h.interpolate_eq c]

/-- A step none of whose parameters refers to anything. -/
def Step.Closed (s : Step) : Prop := ∀ p ∈ s.parameters, p.Closed

/-- Such a step makes the same statement in every context. -/
theorem Step.Closed.bind_eq {s : Step} (h : s.Closed) (c d : Context) : s.bind c = s.bind d := by
  have harguments : s.parameters.map (Parameter.argument c) =
      s.parameters.map (Parameter.argument d) :=
    List.map_congr_left fun p hp => by rw [(h p hp).argument_eq c, (h p hp).argument_eq d]
  have hall := congrArg (List.mapM id) harguments
  rw [List.mapM_map, List.mapM_map, Function.id_comp, Function.id_comp] at hall
  rw [bind, bind, bindParameters, bindParameters, hall]

end BoundQuery
