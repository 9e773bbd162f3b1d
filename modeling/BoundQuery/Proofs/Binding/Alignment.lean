import BoundQuery.Proofs.Binding.Placement

/-!
# Placeholders and values in step

Without SQL text among the arguments, the `?` that binding writes are the placeholders of the
statement, and those of the template that are left over are the only others.

* `Filling.Plain` : arguments without SQL text, with a list for every `IN` list and values after
  those;
* `Filling.Plain.placeholdersBefore_eq` : in front of a token there are as many placeholders as
  values, and one more for every mark that is left over there;
* `bindTemplate_plain` : **binding succeeds exactly when there is one argument for every slot, and
  then the `?` of a value stands in the text of the token that the value belongs to.**
-/

namespace BoundQuery

namespace Filling

variable {F : Filling}

/-- Arguments without SQL text, with which binding comes to the end of its passes. -/
structure Plain (F : Filling) : Prop where
  /-- No argument is SQL text. -/
  noSql : ∀ a ∈ F.arguments, a.isSql = false
  /-- There is one argument for every name and every `IN` list. -/
  enough : F.nameCount + F.listCount ≤ F.arguments.length
  /-- An `IN` list takes a list that is not empty. -/
  lists : ∀ a ∈ (F.arguments.drop F.nameCount).take F.listCount, a.isFullList = true
  /-- Each argument after those is a value that is not `null`. -/
  values : ∀ a ∈ F.arguments.drop (F.nameCount + F.listCount), a.isValue = true

/-! ### Arguments without SQL text -/

theorem Plain.fits (h : F.Plain) : F.Fits where
  enough := h.enough
  lists := h.lists
  marks a ha := .inl (h.values a ha)
  rest a ha := by
    rw [slotCount, ← List.drop_drop] at ha
    exact h.values a (List.mem_of_mem_drop ha)

theorem Plain.region_eq (h : F.Plain) (hread : Region.code.Reads F.tokens) {i : Nat}
    (hi : i ≤ F.tokens.length) : F.region i = F.templateRegion i :=
  Filling.region_eq hread
    (fun _ _ ha => Argument.closed_of_not_isSql (h.noSql _ (argument?_mem ha))) hi

/-- What is found in the text of a token: its values, or the mark that is left over. -/
theorem Plain.found_eq (h : F.Plain) (hread : Region.code.Reads F.tokens) {i : Nat} {t : Token}
    (ht : F.tokens[i]? = some t) :
    F.found i = (F.values i).length + if t = .bare ∧ F.argument? i = none then 1 else 0 := by
  have hi := (List.getElem?_eq_some_iff.1 ht).1
  have hregion := h.region_eq hread (Nat.le_of_lt hi)
  cases ha : F.argument? i with
  | some a =>
    rw [found_of_some hread hregion ha (h.noSql a (argument?_mem ha)), values_of_some ha]
    simp
  | none =>
    rw [found_of_none hread hregion ht ha, values_of_none ha, List.length_nil, Nat.zero_add]
    by_cases hp : t.isPlaceholder = true
    · obtain rfl := eq_bare_of_none h.enough ht ha hp
      simp [hp]
    · have hbare : t ≠ .bare := by
        rintro rfl
        exact hp rfl
      simp [hp, hbare]

/-- **In front of a token there are as many placeholders as values, and one more for every mark
that is left over there.** -/
theorem Plain.placeholdersBefore_eq (h : F.Plain) (hread : Region.code.Reads F.tokens) {i : Nat}
    (hi : i ≤ F.tokens.length) :
    F.placeholdersBefore i = F.valueStart i +
      ((F.tokens.take i).countP Token.isBare -
        (F.arguments.length - (F.nameCount + F.listCount))) := by
  induction i with
  | zero => simp
  | succ i ih =>
    have henough := h.enough
    have ht := List.getElem?_eq_getElem hi
    generalize F.tokens[i] = t at ht
    rw [placeholdersBefore_succ, valueStart_succ, ih (Nat.le_of_succ_le hi), h.found_eq hread ht,
      List.take_add_one, ht, List.countP_append, Option.toList_some]
    by_cases hbare : t = .bare
    · -- The mark takes the argument after those of the marks before it, if there is one.
      subst hbare
      have hnone : F.argument? i = none ↔ F.arguments.length ≤
          F.nameCount + F.listCount + (F.tokens.take i).countP Token.isBare := by
        rw [argument?_bare ht, List.getElem?_eq_none_iff]
      have hone : [Token.bare].countP Token.isBare = 1 := rfl
      simp only [true_and, hnone, hone]
      split <;> omega
    · have hzero : [t].countP Token.isBare = 0 := by
        cases t <;> first | rfl | exact absurd rfl hbare
      simp only [hbare, false_and, if_false, hzero, Nat.add_zero]
      omega

theorem Plain.length_surplus (h : F.Plain) :
    F.surplus.length = F.arguments.length - F.slotCount := by
  have hone : ∀ l : List Argument, (∀ a ∈ l, a.isValue = true) →
      (l.flatMap Argument.values).length = l.length := by
    intro l hl
    induction l with
    | nil => rfl
    | cons a l ih =>
      have ha : a.values.length = 1 := Argument.length_values (hl a List.mem_cons_self)
      rw [List.flatMap_cons, List.length_append, ih fun b hb => hl b (List.mem_cons_of_mem _ hb),
        ha, List.length_cons, Nat.add_comm]
  rw [surplus, hone _ h.fits.rest, List.length_drop]

/-! ### The two numbers -/

theorem Plain.placeholders_eq (h : F.Plain) (hread : Region.code.Reads F.tokens) :
    F.statement.placeholders =
      F.valueStart F.tokens.length + (F.slotCount - F.arguments.length) := by
  have henough := h.enough
  have hall := h.placeholdersBefore_eq hread (Nat.le_refl _)
  rw [List.take_length] at hall
  rw [Filling.placeholders_eq, hall, slotCount, markCount]
  omega

theorem Plain.length_values (h : F.Plain) :
    F.statement.values.length =
      F.valueStart F.tokens.length + (F.arguments.length - F.slotCount) := by
  rw [length_statement_values, h.length_surplus]

/-! ### Statements in step -/

/-- A statement in which the `?` of every placeholder stands in the text of the token that gives
its value. -/
structure InStep (F : Filling) (b : BoundStatement) : Prop where
  /-- The texts of all tokens. -/
  sql : b.sql = String.ofList ((List.range F.tokens.length).flatMap F.text)
  /-- The values of all tokens. -/
  values : b.values = (List.range F.tokens.length).flatMap F.values
  /-- There is one placeholder for every value. -/
  count : (placeholderOffsets b.sql).length = b.values.length
  /-- A placeholder is a `?`. -/
  mark : ∀ o ∈ placeholderOffsets b.sql, b.sql.toList[o]? = some '?'
  /-- The `?` stands in the text of a token exactly if the value with its number is one of that
  token. -/
  place : ∀ j o, (placeholderOffsets b.sql)[j]? = some o → ∀ i,
    (F.valueStart i ≤ j ∧ j < F.valueStart (i + 1)) ↔ (F.textStart i ≤ o ∧ o < F.textStart (i + 1))

/-- With an argument for every slot no mark is left over. -/
theorem Plain.placeholdersBefore_eq_valueStart (h : F.Plain)
    (hread : Region.code.Reads F.tokens) (hn : F.arguments.length = F.slotCount) (i : Nat) :
    F.placeholdersBefore i = F.valueStart i := by
  -- Behind the last token there are neither texts nor values.
  wlog hi : i ≤ F.tokens.length
  · have hle := Nat.le_of_not_le hi
    rw [valueStart_of_le hle, ← this h hread hn _ (Nat.le_refl _)]
    simp only [Filling.placeholdersBefore_eq, F.before_of_le hle]
  · have hle : (F.tokens.take i).countP Token.isBare ≤ F.markCount :=
      (List.take_sublist _ _).countP_le
    rw [h.placeholdersBefore_eq hread hi, hn, slotCount]
    omega

theorem Plain.inStep (h : F.Plain) (hread : Region.code.Reads F.tokens)
    (hn : F.arguments.length = F.slotCount) : F.InStep F.statement where
  sql := rfl
  values := by
    have hnone : F.surplus = [] := by
      rw [← List.length_eq_zero_iff, h.length_surplus, hn, Nat.sub_self]
    rw [statement, hnone, List.append_nil]
  count := by
    rw [length_placeholderOffsets, ← BoundStatement.placeholders, h.placeholders_eq hread,
      h.length_values, hn]
  mark _ := getElem?_of_mem_placeholderOffsets
  place j o ho i := by
    have hiff := F.lt_textStart_iff ho
    simp only [h.placeholdersBefore_eq_valueStart hread hn] at hiff
    rw [hiff, ← Nat.not_lt, ← Nat.not_lt, hiff]

end Filling

/-- **Without SQL text among the arguments, binding succeeds exactly when there is one argument for
every slot.**  Then every placeholder stands where its value comes from.  Otherwise the fault names
the two numbers of the statement; they are apart by the arguments that are missing or left over. -/
theorem bindTemplate_plain {template : String} {args : List Argument} {F : Filling}
    (hF : Filling.of template args = F) (h : F.Plain) :
    ((∃ b, bindTemplate template args = .ok b ∧ b.empty = false) ↔ args.length = F.slotCount) ∧
    (∀ b, bindTemplate template args = .ok b → F.InStep b) ∧
    (args.length ≠ F.slotCount →
      bindTemplate template args = .error
        (.mismatch F.statement.placeholders F.statement.values.length F.statement.sql) ∧
      F.statement.placeholders = F.valueStart F.tokens.length + (F.slotCount - args.length) ∧
      F.statement.values.length = F.valueStart F.tokens.length + (args.length - F.slotCount)) := by
  subst hF
  have hread : Region.code.Reads (Filling.of template args).tokens := Region.reads_tokens trivial
  have hbind := bindTemplate_of_fits h.fits
  have hplaceholders := h.placeholders_eq hread
  have hvalues := h.length_values
  change (Filling.of template args).statement.placeholders = _ + (_ - args.length) at hplaceholders
  change _ = _ + (args.length - _) at hvalues
  -- Of the two differences at least one is zero, so the numbers agree only if both are.
  have hsame : (Filling.of template args).statement.placeholders =
      (Filling.of template args).statement.values.length ↔
        args.length = (Filling.of template args).slotCount := by omega
  refine ⟨⟨?_, fun hn => ?_⟩, fun b hb => ?_, fun hn => ⟨?_, hplaceholders, hvalues⟩⟩
  · rintro ⟨b, hb, -⟩
    rw [hbind] at hb
    exact hsame.1 (checkCount_eq_ok_iff.1 hb).2
  · exact ⟨_, hbind.trans (checkCount_eq_ok_iff.2 ⟨rfl, hsame.2 hn⟩), rfl⟩
  · rw [hbind] at hb
    obtain ⟨rfl, hcount⟩ := checkCount_eq_ok_iff.1 hb
    exact h.inStep hread (hsame.1 hcount)
  · rw [hbind, checkCount, if_neg (mt hsame.1 hn)]

/-- The mark comes first in the text and takes the last of the arguments. -/
theorem bindTemplate_plain_shared :
    (Filling.of "x = ? AND y = :y OR z IN (?)"
      [.scalar (.text "y"), .list [.bool true, .bool false], .scalar (.text "x")]).Plain ∧
    ∃ b, bindTemplate "x = ? AND y = :y OR z IN (?)"
        [.scalar (.text "y"), .list [.bool true, .bool false], .scalar (.text "x")] = .ok b ∧
      b.empty = false ∧
      b.values = [.text "x", .text "y", .bool true, .bool false] := by
  have htokens : tokens "x = ? AND y = :y OR z IN (?)".toList =
      [.text ['x'], .text [' '], .text ['='], .text [' '], .bare, .text [' '],
        .text ['A', 'N', 'D'], .text [' '], .text ['y'], .text [' '], .text ['='], .text [' '],
        .named ['y'], .text [' '], .text ['O', 'R'], .text [' '], .text ['z'], .text [' '],
        .inList ['I', 'N', ' ', '(', '?', ')']] := by decide +kernel
  have hplain : (Filling.of "x = ? AND y = :y OR z IN (?)"
      [.scalar (.text "y"), .list [.bool true, .bool false], .scalar (.text "x")]).Plain := by
    unfold Filling.of
    rw [htokens]
    exact ⟨by decide, by decide, by decide, by decide⟩
  obtain ⟨hok, hstep, -⟩ := bindTemplate_plain rfl hplain
  obtain ⟨b, hb, he⟩ := hok.2 (by
    unfold Filling.of
    rw [htokens]
    decide)
  refine ⟨hplain, b, hb, he, ?_⟩
  rw [(hstep b hb).values, Filling.of, htokens]
  decide

end BoundQuery
