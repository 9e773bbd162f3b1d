import BoundQuery.Proofs.Binding.Filling
import BoundQuery.Proofs.Scan.Choice

/-!
# Templates that are left as they are

Splitting a text into tokens loses nothing, so a template that takes no argument comes out of
binding as it went in.

* `statement_fragments` : the texts of all tokens are the template;
* `bindTemplate_nil` : binding nothing compares the numbers and does nothing else;
* `bindTemplate_nil_iff` : **exactly a template without placeholders can be bound without
  arguments, and it is left as it is**;
* `tokens_lossless` : the same with what it rests on: every step takes text of its own, no step is
  stuck, and nothing is lost.
-/

namespace BoundQuery

/-! ### Without arguments -/

theorem renderTokens_nil (ts : List Token) : renderTokens [] ts [] [] = ts.map Token.fragment := by
  induction ts with
  | nil => rfl
  | cons t ts ih => cases t <;> exact congrArg (_ :: ·) ih

/-- The texts of all tokens are the template. -/
theorem statement_fragments (sql : String) :
    statement ((tokens sql.toList).map Token.fragment) [] false = ⟨sql, [], false⟩ := by
  have hsql : (Fragment.concat ((tokens sql.toList).map Token.fragment)).sql = sql := by
    rw [Fragment.concat_sql, List.flatMap_map]
    simp only [Token.fragment, Fragment.text, String.toList_ofList]
    rw [flatMap_source_tokens, String.ofList_toList]
  have hvalues : (Fragment.concat ((tokens sql.toList).map Token.fragment)).values = [] := by
    rw [Fragment.concat_values, List.flatMap_map]
    exact List.flatMap_eq_nil_iff.2 fun _ _ => rfl
  rw [statement, hsql, hvalues]
  rfl

/-- Where neither a name nor an `IN` list wants an argument, binding nothing compares the numbers
and does nothing else. -/
theorem bindTemplate_nil {sql : String} (hnames : distinctNames (tokens sql.toList) = [])
    (hlists : (tokens sql.toList).countP Token.isInList = 0) :
    bindTemplate sql [] = checkCount ⟨sql, [], false⟩ := by
  rw [← statement_fragments, ← renderTokens_nil]
  simp only [bindTemplate, hnames, hlists, assignNames, takeLists, takeMarks]

/-! ### Without placeholders -/

theorem distinctNames_eq_nil_iff {ts : List Token} :
    distinctNames ts = [] ↔ ∀ t ∈ ts, t.name? = none := by
  rw [List.eq_nil_iff_forall_not_mem]
  simp only [distinctNames, List.mem_eraseDups, List.mem_filterMap, not_exists, not_and]
  constructor
  · intro h t ht
    exact Option.eq_none_iff_forall_ne_some.2 fun name => h name t ht
  · intro h name t ht
    rw [h t ht]
    exact (Option.some_ne_none name).symm

theorem isSlot_eq_false_iff (t : Token) :
    t.isSlot = false ↔ t.name? = none ∧ t.isPlaceholder = false := by
  cases t <;> simp [Token.isSlot, Token.name?, Token.isPlaceholder]

/-- A text without placeholders has neither names nor marks. -/
theorem forall_not_isSlot_iff (sql : String) :
    (∀ t ∈ tokens sql.toList, t.isSlot = false) ↔
      distinctNames (tokens sql.toList) = [] ∧ placeholderCount sql = 0 := by
  simp only [isSlot_eq_false_iff, forall_and, distinctNames_eq_nil_iff, placeholderCount,
    List.countP_eq_zero, Bool.not_eq_true]

/-- **Exactly a template without placeholders can be bound without arguments, and it is left as it
is.** -/
theorem bindTemplate_nil_iff (sql : String) :
    bindTemplate sql [] = .ok ⟨sql, [], false⟩ ↔ ∀ t ∈ tokens sql.toList, t.isSlot = false := by
  rw [forall_not_isSlot_iff]
  constructor
  · intro h
    obtain ⟨-, hcount⟩ := eq_statement_of_bindTemplate h rfl
    have henough := (fits_of_bindTemplate h rfl).enough
    have hlen : (distinctNames (tokens sql.toList)).length = 0 :=
      Nat.le_zero.1 (le_trans (Nat.le_add_right _ _) henough)
    exact ⟨List.length_eq_zero_iff.1 hlen, hcount⟩
  · rintro ⟨hnames, hcount⟩
    -- An `IN` list would be a placeholder.
    have hlists : (tokens sql.toList).countP Token.isInList = 0 := by
      refine Nat.le_zero.1 (hcount ▸ List.countP_mono_left fun t _ ht => ?_)
      cases t with
      | inList cs => rfl
      | _ => cases ht
    rw [bindTemplate_nil hnames hlists]
    exact checkCount_eq_ok_iff.2 ⟨rfl, hcount⟩

/-- **Splitting a text into tokens ends and loses nothing.**  On a text that is not empty some
reader takes a token; the token has a text of its own, which with the shorter text after it is the
whole text; no token is without text; all texts together are the text; and a template without
placeholders, without arguments, is left as it is. -/
theorem tokens_lossless (sql : String) :
    (∀ cs, TokenReader.first? cs = none ↔ cs = []) ∧
      (∀ c rest, ∃ t after, TokenReader.first? (c :: rest) = some (t, after) ∧ t.source ≠ [] ∧
        t.source ++ after = c :: rest ∧ after.length < (c :: rest).length ∧
          tokens (c :: rest) = t :: tokens after) ∧
      (∀ t ∈ tokens sql.toList, t.source ≠ []) ∧
      (tokens sql.toList).flatMap Token.source = sql.toList ∧
      (bindTemplate sql [] = .ok ⟨sql, [], false⟩ ↔
        ∀ t ∈ tokens sql.toList, t.isSlot = false) := by
  refine ⟨fun _ => TokenReader.first?_eq_none_iff, TokenReader.step, fun t ht => ?_,
    flatMap_source_tokens _, bindTemplate_nil_iff sql⟩
  obtain ⟨c, rest, rfl⟩ := exists_next_of_mem_tokens ht
  obtain ⟨tail, hs⟩ := Token.source_next_eq c rest
  rw [hs]
  exact List.cons_ne_nil c tail

/-- A quote and a comment hide the marks, and a backslash, a colon and an open comment at the end
are kept. -/
theorem tokens_lossless_inert :
    (∀ t ∈ tokens "SELECT '?', \\? -- :x?\n: /* ?".toList, t.isSlot = false) ∧
      bindTemplate "SELECT '?', \\? -- :x?\n: /* ?" [] =
        .ok ⟨"SELECT '?', \\? -- :x?\n: /* ?", [], false⟩ := by
  have htokens : tokens "SELECT '?', \\? -- :x?\n: /* ?".toList =
      [.text "SELECT".toList, .text [' '], .inert "'?'".toList, .text [','], .text [' '],
        .text ['\\', '?'], .text [' '], .inert "-- :x?".toList, .text ['\n'], .text [':'],
        .text [' '], .inert "/* ?".toList] := by decide +kernel
  have hslots : ∀ t ∈ tokens "SELECT '?', \\? -- :x?\n: /* ?".toList, t.isSlot = false := by
    rw [htokens]
    decide
  exact ⟨hslots, (tokens_lossless _).2.2.2.2.2 hslots⟩

end BoundQuery
