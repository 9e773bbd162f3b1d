import BoundQuery.Proofs.Binding.Filling
import BoundQuery.Proofs.Except

/-!
# Statements that need not be executed

Binding ends early at an empty list for an `IN` list and at a `null` among the arguments for the
marks that stand alone.  The statement is then *empty*: nothing could match, so it is skipped.

* `takeLists_eq_none_iff`, `takeMarks_append_null`, `isSome_of_takeMarks` : where the two passes end
  early, and what they have taken until then;
* `Filling.EndsAt` : the argument that ends binding, said without passes; there is at most one
  (`Filling.EndsAt.unique`);
* `Filling.remnant` : what has been filled in before it;
* `Filling.EndsInPlace` : that argument has a placeholder of its own;
* `bindTemplate_skips_iff` : **a statement is empty exactly when some argument ends binding, and
  that argument has a placeholder exactly when it is not a `null` behind the last of them.**

A `null` behind the last placeholder is the gap: it makes a statement empty in which all marks have
their values (`bindTemplate_stray_null`), where every other value without a mark is a fault.
-/

namespace BoundQuery

/-! ### Where the passes end -/

/-- The pass over the `IN` lists ends early at an empty list behind lists that are not. -/
theorem takeLists_eq_none_iff {n : Nat} {args : List Argument} {fragments : List Fragment} :
    takeLists n args = .ok (fragments, none) ↔
      ∃ before after, args = before ++ .list [] :: after ∧ before.length < n ∧
        takeLists before.length before = .ok (fragments, some []) := by
  fun_induction takeLists n args generalizing fragments with
  | case1 args => simp
  | case2 n args =>
    constructor
    · rintro ⟨⟩
      exact ⟨[], args, rfl, Nat.succ_pos n, rfl⟩
    · rintro ⟨before, after, hargs, -, hlists⟩
      cases before with
      | nil =>
        cases hlists
        rfl
      | cons a before =>
        obtain ⟨rfl, -⟩ := List.cons.inj hargs
        simp [takeLists] at hlists
  | case3 n v vs args ih =>
    simp only [map_eq_ok_iff, Prod.exists, Prod.mk.injEq]
    constructor
    · rintro ⟨fs, o, hargs, rfl, rfl⟩
      obtain ⟨before, after, rfl, hlt, hlists⟩ := ih.1 hargs
      refine ⟨.list (v :: vs) :: before, after, rfl, Nat.succ_lt_succ hlt, ?_⟩
      rw [List.length_cons, takeLists, hlists]
      rfl
    · rintro ⟨before, after, hargs, hlt, hlists⟩
      cases before with
      | nil => cases hargs
      | cons a before =>
        obtain ⟨rfl, rfl⟩ := List.cons.inj hargs
        rw [List.length_cons, takeLists, map_eq_ok_iff] at hlists
        obtain ⟨⟨fs, o⟩, hfs, heq⟩ := hlists
        obtain ⟨rfl, rfl⟩ := Prod.mk.inj heq
        exact ⟨fs, none, ih.2 ⟨before, after, rfl, Nat.lt_of_succ_lt_succ hlt, hfs⟩, rfl, rfl⟩
  | case4 n args hnil hcons =>
    constructor
    · rintro ⟨⟩
    · rintro ⟨before, after, rfl, -, hlists⟩
      cases before with
      | nil => exact absurd rfl (hnil after)
      | cons a before =>
        rcases a with v | (_ | ⟨v, vs⟩) | text
        · cases hlists
        · cases hlists
        · exact absurd rfl (hcons v vs _)
        · cases hlists

/-- A `null` cuts the pass over the marks off, wherever it stands. -/
theorem takeMarks_append_null (n : Nat) (before after : List Argument) :
    takeMarks n (before ++ .scalar .null :: after) =
      (takeMarks n before).map fun (fragments, _) => (fragments, none) := by
  fun_induction takeMarks n before with
  | case1 n => simp [takeMarks, Except.map]
  | case2 n before => simp [takeMarks, Except.map]
  | case3 n v before hne ih =>
    rw [List.cons_append, takeMarks, ih]
    · cases takeMarks n before <;> rfl
    · exact hne
  | case4 v before hne ih =>
    rw [List.cons_append, takeMarks, ih]
    · cases takeMarks 0 before <;> rfl
    · exact hne
  | case5 n text before ih =>
    rw [List.cons_append, takeMarks, ih]
    cases takeMarks n before <;> rfl
  | case6 text before => simp [takeMarks, Except.map]
  | case7 n vs before => simp [takeMarks, Except.map]

/-- Without a `null` the pass over the marks does not end early. -/
theorem isSome_of_takeMarks {n : Nat} {args : List Argument} {fragments : List Fragment}
    {surplus : Option (List BindValue)} (hnull : .scalar .null ∉ args)
    (h : takeMarks n args = .ok (fragments, surplus)) : surplus.isSome = true := by
  fun_induction takeMarks n args generalizing fragments surplus with
  | case1 n =>
    cases h
    rfl
  | case2 n args => simp at hnull
  | case3 n v args hne ih | case5 n v args ih =>
    obtain ⟨⟨fs, o⟩, hfs, heq⟩ := map_eq_ok_iff.1 h
    cases heq
    exact ih (fun hm => hnull (List.mem_cons_of_mem _ hm)) hfs
  | case4 v args hne ih =>
    obtain ⟨⟨fs, o⟩, hfs, heq⟩ := map_eq_ok_iff.1 h
    cases heq
    rw [Option.isSome_map]
    exact ih (fun hm => hnull (List.mem_cons_of_mem _ hm)) hfs
  | case6 text args => cases h
  | case7 n vs args => cases h

/-- Where the pass over the marks ends early, a first `null` stands behind arguments that it
takes. -/
theorem exists_null_of_takeMarks {n : Nat} {args : List Argument} {fragments : List Fragment}
    (h : takeMarks n args = .ok (fragments, none)) :
    ∃ before after surplus, args = before ++ .scalar .null :: after ∧
      takeMarks n before = .ok (fragments, some surplus) := by
  by_cases hnull : Argument.scalar .null ∈ args
  · obtain ⟨before, after, rfl, hbefore⟩ := List.eq_append_cons_of_mem hnull
    rw [takeMarks_append_null, map_eq_ok_iff] at h
    obtain ⟨⟨fs, o⟩, hfs, heq⟩ := h
    cases heq
    obtain ⟨surplus, rfl⟩ := Option.isSome_iff_exists.1 (isSome_of_takeMarks hbefore hfs)
    exact ⟨before, after, surplus, rfl, hfs⟩
  · cases isSome_of_takeMarks hnull h

/-! ### The argument that ends binding -/

namespace Filling

/-- The tokens with the arguments in front of the one with this number. -/
def first (F : Filling) (k : Nat) : Filling := ⟨F.tokens, F.arguments.take k⟩

/-- How the argument with this number ends binding. -/
inductive EndsAt (F : Filling) (k : Nat) : Prop where
  /-- It is an empty list for an `IN` list, and the `IN` lists before have lists with values. -/
  | list (harg : F.arguments[k]? = some (.list [])) (hge : F.nameCount ≤ k)
    (hlt : k < F.nameCount + F.listCount)
    (hfull : ∀ a ∈ (F.arguments.take k).drop F.nameCount, a.isFullList = true)
  /-- It is a `null` behind arguments that fit. -/
  | null (harg : F.arguments[k]? = some (.scalar .null)) (hfits : (F.first k).Fits)

/-- What the arguments in front of the one with this number have filled in. -/
def remnant (F : Filling) (k : Nat) : BoundStatement where
  sql := (F.first k).statement.sql
  values := (List.range F.tokens.length).flatMap (F.first k).values
  empty := true

/-- Whether the argument with this number ends binding at a placeholder of its own: as an empty
list for an `IN` list, or as a `null` for a mark that stands alone. -/
def EndsInPlace (F : Filling) (k : Nat) : Prop :=
  (∃ i cs, F.tokens[i]? = some (.inList cs) ∧ F.index? i = some k ∧
    F.arguments[k]? = some (.list [])) ∨
  ∃ i, F.tokens[i]? = some .bare ∧ F.index? i = some k ∧ F.arguments[k]? = some (.scalar .null)

variable {F : Filling} {k : Nat}

@[simp] theorem first_tokens : (F.first k).tokens = F.tokens := rfl

@[simp] theorem first_nameCount : (F.first k).nameCount = F.nameCount := rfl

@[simp] theorem first_listCount : (F.first k).listCount = F.listCount := rfl

@[simp] theorem first_markCount : (F.first k).markCount = F.markCount := rfl

theorem first_drop_of_le {m : Nat} {a : Argument} (h : F.arguments[k]? = some a) (hm : m ≤ k) :
    F.arguments.drop m = (F.first k).arguments.drop m ++ a :: F.arguments.drop (k + 1) := by
  obtain ⟨hk, rfl⟩ := List.getElem?_eq_some_iff.1 h
  have hsplit : F.arguments = F.arguments.take k ++ F.arguments[k] :: F.arguments.drop (k + 1) := by
    rw [← List.drop_eq_getElem_cons hk, List.take_append_drop]
  have hlen : m ≤ (F.arguments.take k).length := by
    rw [List.length_take]
    omega
  conv_lhs => rw [hsplit]
  exact List.drop_append_of_le_length hlen

/-- An argument behind a part of the others. -/
theorem first_drop_eq {m : Nat} {a : Argument} {before after : List Argument}
    (h : F.arguments.drop m = before ++ a :: after) :
    F.arguments[m + before.length]? = some a ∧
      (F.first (m + before.length)).arguments.drop m = before := by
  constructor
  · rw [← List.getElem?_drop, h, List.getElem?_append_right (le_refl _), Nat.sub_self]
    rfl
  · rw [first, List.drop_take, h, Nat.add_sub_cancel_left, List.take_left]

theorem length_first {a : Argument} (h : F.arguments[k]? = some a) :
    (F.first k).arguments.length = k := by
  have hk := (List.getElem?_eq_some_iff.1 h).1
  rw [first, List.length_take]
  omega

/-- An argument behind those for the `IN` lists leaves these alone. -/
theorem first_lists (hk : F.nameCount + F.listCount ≤ k) :
    ((F.first k).arguments.drop F.nameCount).take F.listCount =
      (F.arguments.drop F.nameCount).take F.listCount := by
  rw [first, List.drop_take, List.take_take, Nat.min_eq_left (by omega)]

theorem zip_take_of_length_le {α β : Type} {as : List α} {bs : List β} {k : Nat}
    (h : as.length ≤ k) : as.zip (bs.take k) = as.zip bs := by
  induction as generalizing bs k with
  | nil => rfl
  | cons a as ih =>
    cases k with
    | zero => simp at h
    | succ k =>
      cases bs with
      | nil => rfl
      | cons b bs =>
        rw [List.take_succ_cons, List.zip_cons_cons, List.zip_cons_cons,
          ih (Nat.le_of_succ_le_succ h)]

/-- The fragments of the passes over the arguments in front of one make up what they have filled
in. -/
theorem remnant_eq (hk : F.nameCount ≤ k) :
    BoundQuery.statement (renderTokens
      ((distinctNames F.tokens).zip (F.arguments.map Argument.named)) F.tokens
      ((((F.first k).arguments.drop F.nameCount).take F.listCount).map Argument.listed)
      ((((F.first k).arguments.drop (F.nameCount + F.listCount)).take F.markCount).map
        Argument.named)) [] true = F.remnant k := by
  have hnames : (distinctNames F.tokens).zip (F.arguments.map Argument.named) =
      (distinctNames F.tokens).zip ((F.first k).arguments.map Argument.named) := by
    rw [first, List.map_take, zip_take_of_length_le hk]
  have hrender := (F.first k).renderTokens_eq
  simp only [first_tokens, first_nameCount, first_listCount, first_markCount] at hrender
  rw [hnames, hrender, BoundQuery.statement, Fragment.concat_sql, Fragment.concat_values,
    List.flatMap_map, List.flatMap_map, List.append_nil]
  simp only [String.toList_ofList]
  rfl

theorem EndsAt.nameCount_le (h : F.EndsAt k) : F.nameCount ≤ k := by
  cases h with
  | list harg hge hlt hfull => exact hge
  | null harg hfits =>
    have := hfits.enough
    rw [length_first harg, first_nameCount] at this
    omega

/-- In front of the argument that ends binding all others are taken. -/
theorem EndsAt.taken (h : F.EndsAt k) {l : Nat} {a : Argument} (hge : F.nameCount ≤ l)
    (hlt : l < k) (ha : F.arguments[l]? = some a) :
    a.isFullList = true ∨ a.isValue = true ∨ a.isSql = true := by
  have hfirst : (F.first k).arguments[l]? = some a := by
    rw [first, List.getElem?_take_of_lt hlt, ha]
  have hmem : ∀ m ≤ l, a ∈ (F.first k).arguments.drop m := by
    intro m hm
    refine List.mem_of_getElem? (i := l - m) ?_
    rw [List.getElem?_drop, Nat.add_sub_cancel' hm, hfirst]
  cases h with
  | list harg _ _ hfull => exact .inl (hfull a (hmem _ hge))
  | null harg hfits =>
    by_cases hl : l < F.nameCount + F.listCount
    · refine .inl (hfits.lists a (List.mem_of_getElem? (i := l - F.nameCount) ?_))
      rw [first_nameCount, first_listCount, List.getElem?_take_of_lt (by omega),
        List.getElem?_drop, Nat.add_sub_cancel' hge, hfirst]
    · exact .inr (hfits.marks a (hmem _ (Nat.le_of_not_lt hl)))

/-- At most one argument ends binding. -/
theorem EndsAt.unique {l : Nat} (hk : F.EndsAt k) (hl : F.EndsAt l) : l = k := by
  wlog hle : l ≤ k
  · exact (this hl hk (Nat.le_of_not_le hle)).symm
  refine Nat.le_antisymm hle (Nat.le_of_not_lt fun hlt => ?_)
  -- Neither an empty list nor a `null` is taken in front of another end.
  have htaken : ∀ a, F.arguments[l]? = some a → _ := fun a => hk.taken hl.nameCount_le hlt
  cases hl with
  | list harg => simpa [Argument.isFullList, Argument.isValue, Argument.isSql] using htaken _ harg
  | null harg => simpa [Argument.isFullList, Argument.isValue, Argument.isSql] using htaken _ harg

/-! ### Whether it has a placeholder -/

theorem exists_getElem?_of_lt_countP {α : Type} {p : α → Bool} {l : List α} {j : Nat}
    (h : j < l.countP p) : ∃ i a, l[i]? = some a ∧ p a = true ∧ (l.take i).countP p = j := by
  induction l generalizing j with
  | nil => simp at h
  | cons b l ih =>
    by_cases hb : p b = true
    · cases j with
      | zero => exact ⟨0, b, rfl, hb, rfl⟩
      | succ j =>
        obtain ⟨i, a, hi, ha, hj⟩ := ih (by simpa [hb] using h)
        exact ⟨i + 1, a, hi, ha, by simp [hb, hj]⟩
    · obtain ⟨i, a, hi, ha, hj⟩ := ih (by simpa [hb] using h)
      exact ⟨i + 1, a, hi, ha, by simp [hb, hj]⟩

theorem index?_lt_slotCount {i : Nat} (h : F.index? i = some k) : k < F.slotCount := by
  unfold index? at h
  split at h
  · rename_i name ht
    have hname := List.idxOf_lt_length_of_mem (mem_distinctNames (List.mem_of_getElem? ht))
    obtain rfl := Option.some.inj h
    change _ < (distinctNames F.tokens).length + F.listCount + F.markCount
    omega
  · rename_i cs ht
    have hlist : (F.tokens.take i).countP Token.isInList < F.listCount := countP_take_lt ht rfl
    obtain rfl := Option.some.inj h
    unfold slotCount
    omega
  · rename_i ht
    have hmark : (F.tokens.take i).countP Token.isBare < F.markCount := countP_take_lt ht rfl
    obtain rfl := Option.some.inj h
    unfold slotCount
    omega
  · cases h

theorem exists_inList_index? (hge : F.nameCount ≤ k) (hlt : k < F.nameCount + F.listCount) :
    ∃ i cs, F.tokens[i]? = some (.inList cs) ∧ F.index? i = some k := by
  obtain ⟨i, t, ht, hlist, hcount⟩ := exists_getElem?_of_lt_countP
    (p := Token.isInList) (l := F.tokens) (j := k - F.nameCount) (by unfold listCount at hlt; omega)
  cases t with
  | inList cs =>
    refine ⟨i, cs, ht, ?_⟩
    rw [index?, ht]
    simp only [hcount, Nat.add_sub_cancel' hge]
  | _ => cases hlist

theorem exists_bare_index? (hge : F.nameCount + F.listCount ≤ k) (hlt : k < F.slotCount) :
    ∃ i, F.tokens[i]? = some .bare ∧ F.index? i = some k := by
  obtain ⟨i, t, ht, hbare, hcount⟩ := exists_getElem?_of_lt_countP
    (p := Token.isBare) (l := F.tokens) (j := k - (F.nameCount + F.listCount))
    (by unfold slotCount markCount at hlt; omega)
  cases t with
  | bare =>
    refine ⟨i, ht, ?_⟩
    rw [index?, ht]
    simp only [hcount, Nat.add_sub_cancel' hge]
  | _ => cases hbare

/-- The argument that ends binding has a placeholder if there are more placeholders than arguments
in front of it. -/
theorem EndsAt.endsInPlace_iff (h : F.EndsAt k) : F.EndsInPlace k ↔ k < F.slotCount := by
  constructor
  · rintro (⟨i, cs, -, hi, -⟩ | ⟨i, -, hi, -⟩) <;> exact index?_lt_slotCount hi
  · intro hlt
    cases h with
    | list harg hge hlist =>
      obtain ⟨i, cs, ht, hi⟩ := exists_inList_index? hge hlist
      exact .inl ⟨i, cs, ht, hi, harg⟩
    | null harg hfits =>
      have hge := hfits.enough
      rw [length_first harg] at hge
      obtain ⟨i, ht, hi⟩ := exists_bare_index? hge hlt
      exact .inr ⟨i, ht, hi, harg⟩

end Filling

/-! ### Binding -/

section

variable {template : String} {args : List Argument} {k : Nat}

theorem assignNames_tokens {F : Filling} (hF : Filling.of template args = F)
    (h : F.nameCount ≤ args.length) :
    assignNames (distinctNames (tokens template.toList)) args =
      .ok ((distinctNames F.tokens).zip (args.map Argument.named), args.drop F.nameCount) := by
  subst hF
  exact assignNames_of_le h

/-- Binding ends at an empty list for an `IN` list. -/
theorem bindTemplate_of_list (harg : args[k]? = some (.list []))
    (hge : (Filling.of template args).nameCount ≤ k)
    (hlt : k < (Filling.of template args).nameCount + (Filling.of template args).listCount)
    (hfull : ∀ a ∈ (args.take k).drop (Filling.of template args).nameCount, a.isFullList = true) :
    bindTemplate template args = .ok ((Filling.of template args).remnant k) := by
  set F := Filling.of template args
  have hdrop : args.drop F.nameCount = _ := Filling.first_drop_of_le (F := F) harg hge
  have hlen : ((F.first k).arguments.drop F.nameCount).length < F.listCount := by
    rw [List.length_drop, Filling.length_first harg]
    omega
  have hlists : takeLists ((tokens template.toList).countP Token.isInList)
      (args.drop F.nameCount) =
      .ok (((F.first k).arguments.drop F.nameCount).map Argument.listed, none) := by
    refine takeLists_eq_none_iff.2 ⟨_, _, hdrop, hlen, takeLists_eq_ok_iff.2 ?_⟩
    rw [List.take_length, List.drop_length]
    exact ⟨le_refl _, hfull, rfl, rfl⟩
  -- No argument is left for the marks, so their pass would take nothing.
  have hmarks : (F.first k).arguments.drop (F.nameCount + F.listCount) = [] := by
    rw [List.drop_eq_nil_iff, Filling.length_first harg]
    exact Nat.le_of_lt hlt
  have hk : k < args.length := (List.getElem?_eq_some_iff.1 harg).1
  rw [← Filling.remnant_eq hge, hmarks, List.take_of_length_le (Nat.le_of_lt hlen),
    List.take_nil, List.map_nil]
  simp only [bindTemplate, assignNames_tokens (F := F) rfl (by omega), hlists]
  rfl

/-- Binding ends at a `null` behind arguments that fit. -/
theorem bindTemplate_of_null (harg : args[k]? = some (.scalar .null))
    (hfits : ((Filling.of template args).first k).Fits) :
    bindTemplate template args = .ok ((Filling.of template args).remnant k) := by
  set F := Filling.of template args
  have hle : F.nameCount + F.listCount ≤ k := by
    have := hfits.enough
    rwa [Filling.length_first harg] at this
  have hk : k < args.length := (List.getElem?_eq_some_iff.1 harg).1
  have hrest : args.drop (F.nameCount + F.listCount) = _ := Filling.first_drop_of_le (F := F) harg hle
  have hlists : takeLists ((tokens template.toList).countP Token.isInList)
      (args.drop F.nameCount) =
      .ok ((((F.first k).arguments.drop F.nameCount).take F.listCount).map Argument.listed,
        some (args.drop (F.nameCount + F.listCount))) := by
    have hfull := hfits.lists
    simp only [Filling.first_nameCount, Filling.first_listCount] at hfull
    rw [Filling.first_lists hle] at hfull ⊢
    refine takeLists_eq_ok_iff.2 ⟨?_, hfull, rfl, List.drop_drop.symm⟩
    rw [List.length_drop]
    change F.listCount ≤ _
    omega
  have hmarks : takeMarks ((tokens template.toList).countP Token.isBare)
      (args.drop (F.nameCount + F.listCount)) =
      .ok ((((F.first k).arguments.drop (F.nameCount + F.listCount)).take F.markCount).map
        Argument.named, none) := by
    rw [hrest, takeMarks_append_null, map_eq_ok_iff]
    refine ⟨_, takeMarks_eq_ok_iff.2 ⟨hfits.marks, ?_, rfl, rfl⟩, rfl⟩
    rw [List.drop_drop]
    exact hfits.rest
  rw [← Filling.remnant_eq (Nat.le_trans (Nat.le_add_right _ _) hle)]
  simp only [bindTemplate, assignNames_tokens (F := F) rfl (by omega), hlists, hmarks]
  rfl

theorem bindTemplate_of_endsAt (h : (Filling.of template args).EndsAt k) :
    bindTemplate template args = .ok ((Filling.of template args).remnant k) := by
  cases h with
  | list harg hge hlt hfull => exact bindTemplate_of_list harg hge hlt hfull
  | null harg hfits => exact bindTemplate_of_null harg hfits

/-- Binding that gives an empty statement is ended by one of the arguments. -/
theorem exists_endsAt {b : BoundStatement} (h : bindTemplate template args = .ok b)
    (he : b.empty = true) : ∃ k, (Filling.of template args).EndsAt k := by
  set F := Filling.of template args
  unfold bindTemplate at h
  by_cases hlt : args.length < (distinctNames (tokens template.toList)).length
  · obtain ⟨fault, hf⟩ := assignNames_of_lt hlt
    simp [hf] at h
  simp only [assignNames_of_le (Nat.le_of_not_lt hlt)] at h
  split at h
  · cases h
  · -- An `IN` list takes an empty list.
    rename_i lists hlists
    obtain ⟨before, after, hdrop, hlen, htake⟩ := takeLists_eq_none_iff.1 hlists
    obtain ⟨harg, hbefore⟩ := F.first_drop_eq hdrop
    obtain ⟨-, hfull, -, -⟩ := takeLists_eq_ok_iff.1 htake
    rw [List.take_length] at hfull
    exact ⟨_, .list harg (Nat.le_add_right _ _) (Nat.add_lt_add_left hlen _)
      fun a ha => hfull a (hbefore ▸ ha)⟩
  rename_i lists rest hlists
  obtain ⟨hl, hfull, -, rfl⟩ := takeLists_eq_ok_iff.1 hlists
  split at h
  · cases h
  · -- A `null` ends the pass over the marks.
    rename_i bare hmarks
    obtain ⟨before, after, surplus, hdrop, htake⟩ := exists_null_of_takeMarks hmarks
    rw [List.drop_drop] at hdrop
    change F.arguments.drop (F.nameCount + F.listCount) = _ at hdrop
    obtain ⟨harg, hbefore⟩ := F.first_drop_eq hdrop
    obtain ⟨hvalues, hrest, -, -⟩ := takeMarks_eq_ok_iff.1 htake
    refine ⟨_, .null harg ⟨?_, ?_, fun a ha => hvalues a (hbefore ▸ ha), fun a ha => hrest a ?_⟩⟩
    · rw [Filling.length_first harg]
      exact Nat.le_add_right _ _
    · simp only [Filling.first_nameCount, Filling.first_listCount]
      rw [Filling.first_lists (Nat.le_add_right _ _)]
      exact hfull
    · rw [← hbefore, List.drop_drop]
      exact ha
  · obtain ⟨rfl, -⟩ := checkCount_eq_ok_iff.1 h
    cases he

end

/-- **A statement is empty exactly when an argument ends binding.**  There is then only one such
argument, and the statement is what those in front of it have filled in.  It has a placeholder of
its own if there are as many; it has none exactly when it is a `null` behind the last placeholder,
where any other value would be left over. -/
theorem bindTemplate_skips_iff (template : String) (args : List Argument) :
    let F := Filling.of template args
    (∀ b, bindTemplate template args = .ok b ∧ b.empty = true ↔
      ∃ k, F.EndsAt k ∧ b = F.remnant k) ∧
    (∀ k, F.EndsAt k → (∀ l, F.EndsAt l → l = k) ∧ (F.EndsInPlace k ↔ k < F.slotCount)) ∧
    ∀ k, F.EndsAt k ∧ ¬ F.EndsInPlace k ↔
      F.slotCount ≤ k ∧ args[k]? = some (.scalar .null) ∧ (F.first k).Fits := by
  intro F
  refine ⟨fun b => ⟨?_, ?_⟩, fun k hk => ⟨fun l hl => hk.unique hl, hk.endsInPlace_iff⟩,
    fun k => ⟨?_, ?_⟩⟩
  · rintro ⟨hb, he⟩
    obtain ⟨k, hk⟩ := exists_endsAt hb he
    refine ⟨k, hk, ?_⟩
    rw [bindTemplate_of_endsAt hk] at hb
    exact (Except.ok.inj hb).symm
  · rintro ⟨k, hk, rfl⟩
    exact ⟨bindTemplate_of_endsAt hk, rfl⟩
  · rintro ⟨hk, hplace⟩
    have hge := Nat.le_of_not_lt (mt hk.endsInPlace_iff.2 hplace)
    cases hk with
    | list harg _ hlt =>
      unfold Filling.slotCount at hge
      omega
    | null harg hfits => exact ⟨hge, harg, hfits⟩
  · rintro ⟨hge, harg, hfits⟩
    have hk : F.EndsAt k := .null harg hfits
    exact ⟨hk, fun hplace => Nat.not_lt.2 hge (hk.endsInPlace_iff.1 hplace)⟩

/-- All marks have their values, and yet the statement is empty. -/
theorem bindTemplate_stray_null :
    ¬ ∀ (template : String) (args : List Argument) (b : BoundStatement),
      bindTemplate template args = .ok b → b.empty = true →
        ∃ k, (Filling.of template args).EndsInPlace k := by
  intro h
  have hbind : bindTemplate "DELETE FROM t WHERE id = ?" [.scalar (.int 1), .scalar .null] =
      .ok ⟨"DELETE FROM t WHERE id = ?", [.int 1], true⟩ := by decide +kernel
  obtain ⟨k, hk⟩ := h _ _ _ hbind rfl
  have hslots : (Filling.of "DELETE FROM t WHERE id = ?"
      [.scalar (.int 1), .scalar .null]).slotCount = 1 := by decide +kernel
  have hlt : k < 1 := by
    rw [← hslots]
    obtain ⟨i, cs, -, hi, -⟩ | ⟨i, -, hi, -⟩ := hk <;> exact Filling.index?_lt_slotCount hi
  obtain rfl : k = 0 := Nat.lt_one_iff.1 hlt
  obtain ⟨i, cs, -, -, harg⟩ | ⟨i, -, -, harg⟩ := hk <;> cases harg

end BoundQuery
