import BoundQuery.Proofs.Binding.Alignment

/-!
# SQL text with placeholders of its own

An argument that is SQL text may bring placeholders along, and it may open a quote or a comment
that hides those of the template.  The values for them are not given at the place of the text:
what has no token of its own comes last.  Binding compares totals only, so a statement that passes
can have its values in another order than its placeholders.

* `Filling.Aligned` : the values of every token stand at the number of placeholders in front of it;
* `Filling.strangers` : placeholders in front of a token that stand in texts without values;
* `Filling.hidden` : values in front of a token that have no placeholder of their own;
* `bindTemplate_aligned_iff` : **the values are aligned exactly when these two numbers agree in
  front of every token with values.**  If no SQL text leaves anything open, this says that no SQL
  text with a placeholder stands in front of a value.
-/

namespace BoundQuery

namespace Filling

section

variable (F : Filling)

/-- Whether the values of every token begin at the number of placeholders in front of it. -/
def Aligned : Prop := ∀ i, F.values i ≠ [] → F.valueStart i = F.placeholdersBefore i

/-- The placeholders in front of a token that stand in texts without values. -/
def strangers : Nat → Nat
  | 0 => 0
  | i + 1 => strangers i + if F.values i = [] then F.found i else 0

/-- The values in front of a token in whose texts there is no placeholder for them. -/
def hidden : Nat → Nat
  | 0 => 0
  | i + 1 => hidden i + ((F.values i).length - F.found i)

end

variable {F : Filling}

/-! ### The two numbers -/

/-- The text of a token with values has no placeholders beyond theirs. -/
theorem found_le {i : Nat} (h : F.values i ≠ []) : F.found i ≤ (F.values i).length := by
  obtain ⟨a, ha, hsql⟩ := exists_argument_of_values h
  obtain ⟨t, ht, -⟩ := isSlot_of_argument? ha
  rw [values_of_some ha, found, text_of_some ht ha, ← (marked_filled t hsql).count]
  exact Region.count_le _ _

/-- **What the placeholders in front of a token are made of.** -/
theorem placeholdersBefore_add_hidden (i : Nat) :
    F.placeholdersBefore i + F.hidden i = F.valueStart i + F.strangers i := by
  induction i with
  | zero => simp [hidden, strangers]
  | succ i ih =>
    rw [placeholdersBefore_succ, hidden, valueStart_succ, strangers]
    by_cases h : F.values i = []
    · simp only [h, if_true, List.length_nil]
      omega
    · have hle := found_le h
      simp only [h, if_false]
      omega

theorem aligned_iff : F.Aligned ↔ ∀ i, F.values i ≠ [] → F.strangers i = F.hidden i := by
  refine forall_congr' fun i => imp_congr_right fun _ => ?_
  have h := F.placeholdersBefore_add_hidden i
  omega

/-! ### Closed texts -/

section

variable (hread : Region.code.Reads F.tokens) (hclosed : ∀ a ∈ F.arguments, a.Closed)

include hread hclosed

theorem region_eq_of_closed {i : Nat} (hi : i ≤ F.tokens.length) :
    F.region i = F.templateRegion i :=
  region_eq hread (fun _ a ha => hclosed a (argument?_mem ha)) hi

/-- Every value has its placeholder. -/
theorem found_eq_length {i : Nat} (h : F.values i ≠ []) : F.found i = (F.values i).length := by
  have hregion := region_eq_of_closed hread hclosed (Nat.le_of_lt (lt_length_of_values h))
  obtain ⟨a, ha, hsql⟩ := exists_argument_of_values h
  rw [found_of_some hread hregion ha hsql, values_of_some ha]

theorem hidden_eq_zero (i : Nat) : F.hidden i = 0 := by
  induction i with
  | zero => rfl
  | succ i ih =>
    rw [hidden, ih]
    by_cases h : F.values i = []
    · simp [h]
    · rw [found_eq_length hread hclosed h, Nat.sub_self]

end

theorem strangers_mono {i j : Nat} (h : i ≤ j) : F.strangers i ≤ F.strangers j := by
  induction j, h using Nat.le_induction with
  | base => exact Nat.le_refl _
  | succ j _ ih =>
    rw [strangers]
    omega

theorem isPlaceholder_of_none (hread : Region.code.Reads F.tokens)
    (hclosed : ∀ a ∈ F.arguments, a.Closed) (hfits : F.Fits)
    (hcount : F.statement.placeholders = F.statement.values.length) {i : Nat} {t : Token}
    (ht : F.tokens[i]? = some t) (ha : F.argument? i = none) : t.isPlaceholder = false := by
  by_contra hp
  rw [Bool.not_eq_false] at hp
  have hi := (List.getElem?_eq_some_iff.1 ht).1
  -- A mark that is left over is a placeholder that no value is left for.
  obtain rfl := eq_bare_of_none hfits.enough ht ha hp
  have hregion := region_eq_of_closed hread hclosed (Nat.le_of_lt hi)
  have hfound : F.found i = 1 := found_of_none hread hregion ht ha
  have hstep : F.strangers (i + 1) = F.strangers i + 1 := by
    rw [strangers, if_pos (values_of_none ha), hfound]
  have hmono : F.strangers (i + 1) ≤ F.strangers F.tokens.length := strangers_mono hi
  have hbalance := F.placeholdersBefore_add_hidden F.tokens.length
  rw [hidden_eq_zero hread hclosed] at hbalance
  rw [Filling.placeholders_eq, length_statement_values] at hcount
  have hsurplus : F.surplus = [] := by
    rw [argument?_bare ht, List.getElem?_eq_none_iff] at ha
    have hlt : (F.tokens.take i).countP Token.isBare < F.markCount := countP_take_lt ht rfl
    have hle : F.arguments.length ≤ F.slotCount := by
      rw [slotCount]
      omega
    rw [surplus, List.drop_eq_nil_of_le hle]
    rfl
  rw [hsurplus, List.length_nil] at hcount
  omega

/-- **If no SQL text leaves anything open, the values are aligned exactly when none of those in
front of a value has a placeholder.** -/
theorem aligned_iff_of_closed (hread : Region.code.Reads F.tokens)
    (hclosed : ∀ a ∈ F.arguments, a.Closed) (hfits : F.Fits)
    (hcount : F.statement.placeholders = F.statement.values.length) :
    F.Aligned ↔ ∀ i j text, i < j → F.values j ≠ [] → F.argument? i = some (.sql text) →
      F.found i = 0 := by
  rw [aligned_iff]
  simp only [hidden_eq_zero hread hclosed]
  constructor
  · intro h i j text hij hj hi
    have hmono : F.strangers (i + 1) ≤ F.strangers j := strangers_mono hij
    have hnil : F.values i = [] := values_of_some hi
    rw [h j hj, strangers, if_pos hnil] at hmono
    omega
  · intro h j hj
    have hlt := lt_length_of_values hj
    suffices hall : ∀ i ≤ j, F.strangers i = 0 from hall j (Nat.le_refl j)
    intro i hi
    induction i with
    | zero => rfl
    | succ i ih =>
      rw [strangers, ih (Nat.le_of_succ_le hi), Nat.zero_add]
      split
      · rename_i hnil
        have hilt : i < F.tokens.length := Nat.lt_trans hi hlt
        have hregion := region_eq_of_closed hread hclosed (Nat.le_of_lt hilt)
        have ht := List.getElem?_eq_getElem hilt
        cases ha : F.argument? i with
        | none =>
          rw [found_of_none hread hregion ht ha,
            isPlaceholder_of_none hread hclosed hfits hcount ht ha]
          rfl
        | some a =>
          cases hsql : a.isSql with
          | true =>
            obtain ⟨text, rfl⟩ : ∃ text, a = .sql text := by
              cases a with
              | sql text => exact ⟨text, rfl⟩
              | _ => cases hsql
            exact h i j text hi hj ha
          | false =>
            rw [found_of_some hread hregion ha hsql, ← values_of_some ha, hnil]
            rfl
      · rfl

end Filling

/-- **The values of a bound statement are aligned with its placeholders exactly when, in front of
every token with values, as many placeholders stand in texts without values as there are values
without a placeholder.**  If no SQL text leaves anything open, that is: no SQL text in front of a
value has a placeholder. -/
theorem bindTemplate_aligned_iff {template : String} {args : List Argument} {b : BoundStatement}
    {F : Filling} (hF : Filling.of template args = F) (h : bindTemplate template args = .ok b)
    (he : b.empty = false) :
    b = F.statement ∧
    (∀ i q v, (F.values i)[q]? = some v → b.values[F.valueStart i + q]? = some v) ∧
    (F.Aligned → ∀ i q v, (F.values i)[q]? = some v →
      b.values[F.placeholdersBefore i + q]? = some v) ∧
    (F.Aligned ↔ ∀ i, F.values i ≠ [] → F.strangers i = F.hidden i) ∧
    ((∀ a ∈ args, a.Closed) →
      (F.Aligned ↔ ∀ i j text, i < j → F.values j ≠ [] → F.argument? i = some (.sql text) →
        F.found i = 0)) := by
  subst hF
  obtain ⟨rfl, hcount⟩ := eq_statement_of_bindTemplate h he
  have hread : Region.code.Reads (Filling.of template args).tokens := Region.reads_tokens trivial
  refine ⟨rfl, fun i q v hv => Filling.getElem?_statement_values hv, fun h i q v hv => ?_,
    Filling.aligned_iff, fun hclosed => ?_⟩
  · rw [← h i (List.ne_nil_of_mem (List.mem_of_getElem? hv))]
    exact Filling.getElem?_statement_values hv
  · exact Filling.aligned_iff_of_closed hread hclosed (fits_of_bindTemplate h he) hcount

/-- A condition without a placeholder in front of a value. -/
theorem bindTemplate_aligned_iff_condition :
    bindTemplate "? AND a = ?" [.sql "x = 1", .scalar (.int 2)] =
      .ok ⟨"x = 1 AND a = ?", [.int 2], false⟩ ∧
    (Filling.of "? AND a = ?" [.sql "x = 1", .scalar (.int 2)]).Aligned := by
  have hbind : bindTemplate "? AND a = ?" [.sql "x = 1", .scalar (.int 2)] =
      .ok ⟨"x = 1 AND a = ?", [.int 2], false⟩ := by decide +kernel
  have hclosed : ∀ a ∈ [Argument.sql "x = 1", .scalar (.int 2)], a.Closed := by
    intro a ha text hsql r hr
    subst hsql
    obtain rfl : text = "x = 1" := by simpa using ha
    cases r <;> first | decide | cases hr
  refine ⟨hbind, ((bindTemplate_aligned_iff rfl hbind rfl).2.2.2.2 hclosed).2 ?_⟩
  intro i j text _ _ ha
  obtain rfl : text = "x = 1" := by simpa [Filling.of] using Filling.argument?_mem ha
  obtain ⟨t, ht, -⟩ := Filling.isSlot_of_argument? ha
  rw [Filling.found, Filling.text_of_some ht ha]
  refine Region.count_eq_zero _ ?_
  have hlist : '?' ∉ "IN ()".toList := by decide
  have htext : '?' ∉ "x = 1".toList := by decide
  cases t with
  | inList cs => exact hlist
  | _ => exact htext

/-- The value for the second mark of the statement comes first. -/
theorem bindTemplate_raw_misplaced :
    ¬ ∀ (template : String) (args : List Argument) (b : BoundStatement),
      bindTemplate template args = .ok b → b.empty = false →
        ∀ i q v, ((Filling.of template args).values i)[q]? = some v →
          b.values[(Filling.of template args).placeholdersBefore i + q]? = some v := by
  intro h
  have hbind : bindTemplate "? AND a = ?" [.sql "x = ?", .scalar (.int 1), .scalar (.int 2)] =
      .ok ⟨"x = ? AND a = ?", [.int 1, .int 2], false⟩ := by decide +kernel
  have hvalue : (Filling.of "? AND a = ?"
      [.sql "x = ?", .scalar (.int 1), .scalar (.int 2)]).values 8 = [.int 1] := by decide +kernel
  have hbefore : (Filling.of "? AND a = ?"
      [.sql "x = ?", .scalar (.int 1), .scalar (.int 2)]).placeholdersBefore 8 = 1 := by
    decide +kernel
  have hv := h _ _ _ hbind rfl 8 0 (.int 1) (by rw [hvalue]; rfl)
  rw [hbefore] at hv
  revert hv
  decide

end BoundQuery
