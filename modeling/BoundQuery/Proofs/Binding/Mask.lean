import BoundQuery.Proofs.Binding.EarlyEnd
import BoundQuery.Template.Statement

/-!
# What binding sees of its arguments

A value must reach a store as a value and never as text.  Binding looks at an argument only to see
its *shape*: whether it is `null`, how many values a list has, and what an SQL text says.

* `Argument.SameShape` : two arguments that differ in nothing but their values;
* `Argument.mask` : an argument with all its values hidden, which keeps its shape
  (`Argument.mask_eq_iff`);
* `bindTemplate_mask` : **hiding the values before binding is hiding them after it**, so the two
  bindings of arguments of the same shapes differ in their values only;
* `Token.Renders`, `rendered_bindTemplate` : the text that takes the place of a token is that of
  the token or one of a few texts that no parameter has a part in;
* `bindTemplate_sameShape` : **no value enters a text.**
-/

namespace BoundQuery

/-! ### Shapes -/

/-- Whether two arguments have the same shape. -/
inductive Argument.SameShape : Argument → Argument → Prop where
  /-- Neither is a value. -/
  | null : SameShape (.scalar .null) (.scalar .null)
  /-- Both are values. -/
  | value {v w : BindValue} (hv : v ≠ .null) (hw : w ≠ .null) : SameShape (.scalar v) (.scalar w)
  /-- Both are lists of the same length. -/
  | list {vs ws : List BindValue} (hlength : vs.length = ws.length) :
    SameShape (.list vs) (.list ws)
  /-- Both are the same SQL text. -/
  | sql (text : String) : SameShape (.sql text) (.sql text)

/-- What stands in for a value that is hidden. -/
def BindValue.hidden : BindValue := .bool true

/-- Values that are hidden: only their number is left. -/
def hide (vs : List BindValue) : List BindValue := List.replicate vs.length .hidden

/-- An argument with its values hidden. -/
def Argument.mask : Argument → Argument
  | .scalar .null => .scalar .null
  | .scalar _ => .scalar .hidden
  | .list vs => .list (hide vs)
  | .sql text => .sql text

/-- A fragment with its values hidden. -/
def Fragment.mask (f : Fragment) : Fragment := ⟨f.sql, hide f.values⟩

/-- A statement with its values hidden. -/
def BoundStatement.mask (b : BoundStatement) : BoundStatement := { b with values := hide b.values }

@[simp] theorem length_hide (vs : List BindValue) : (hide vs).length = vs.length :=
  List.length_replicate

@[simp] theorem hide_cons (v : BindValue) (vs : List BindValue) :
    hide (v :: vs) = .hidden :: hide vs := rfl

theorem hide_append (vs ws : List BindValue) : hide (vs ++ ws) = hide vs ++ hide ws := by
  simp [hide]

theorem hide_eq_iff {vs ws : List BindValue} : hide vs = hide ws ↔ vs.length = ws.length := by
  simp [hide, List.replicate_inj, BindValue.hidden]

theorem Argument.mask_scalar {v : BindValue} (h : v ≠ .null) :
    (Argument.scalar v).mask = .scalar .hidden := by
  cases v with
  | null => exact absurd rfl h
  | _ => rfl

/-- Arguments have the same shape if only their values differ. -/
theorem Argument.mask_eq_iff {a b : Argument} : a.mask = b.mask ↔ a.SameShape b := by
  constructor
  · intro h
    have hnull : ∀ v, (Argument.scalar v).mask = .scalar .null → v = .null := by
      intro v hv
      by_contra hne
      rw [mask_scalar hne] at hv
      cases hv
    match a, b with
    | .scalar v, .scalar w =>
      by_cases hv : v = .null
      · subst hv
        obtain rfl := hnull w h.symm
        exact .null
      · by_cases hw : w = .null
        · subst hw
          exact absurd (hnull v h) hv
        · exact .value hv hw
    | .list vs, .list ws => exact .list (hide_eq_iff.1 (Argument.list.inj h))
    | .sql text, .sql _ =>
      cases h
      exact .sql text
    | .scalar v, .list ws | .scalar v, .sql text => cases v <;> cases h
    | .list vs, .scalar v | .sql text, .scalar v => cases v <;> cases h
    | .list vs, .sql text | .sql text, .list vs => cases h
  · rintro (_ | ⟨hv, hw⟩ | hlength | text)
    · rfl
    · rw [mask_scalar hv, mask_scalar hw]
    · exact congrArg Argument.list (hide_eq_iff.2 hlength)
    · rfl

/-! ### The passes -/

theorem Argument.named_mask (a : Argument) : a.mask.named = a.named.mask := by
  cases a with
  | scalar v => cases v <;> rfl
  | list vs =>
    cases vs with
    | nil => rfl
    | cons v vs =>
      change (Argument.list (hide (v :: vs))).named = _
      rw [hide_cons, Argument.named, List.length_cons, length_hide]
      · rfl
      · rintro ⟨⟩
  | sql text => rfl

theorem assignNames_mask (names : List (List Char)) (args : List Argument) :
    assignNames names (args.map Argument.mask) =
      (assignNames names args).map fun (assigned, rest) =>
        (assigned.map fun (name, f) => (name, f.mask), rest.map Argument.mask) := by
  fun_induction assignNames names args with
  | case1 args => rfl
  | case2 name names => rfl
  | case3 name names a args ih =>
    rw [List.map_cons, assignNames, ih, a.named_mask]
    cases assignNames names args <;> rfl

theorem takeLists_mask (n : Nat) (args : List Argument) :
    takeLists n (args.map Argument.mask) =
      (takeLists n args).map fun (fragments, rest) =>
        (fragments.map Fragment.mask, rest.map (List.map Argument.mask)) := by
  fun_induction takeLists n args with
  | case1 args => rfl
  | case2 n args => rfl
  | case3 n v vs args ih =>
    have hmask : (Argument.list (v :: vs)).mask = .list (.hidden :: hide vs) := rfl
    rw [List.map_cons, hmask, takeLists, ih, length_hide]
    cases takeLists n args <;> rfl
  | case4 n args hnil hcons =>
    cases args with
    | nil => rfl
    | cons a args =>
      cases a with
      | scalar v => cases v <;> rfl
      | list vs =>
        cases vs with
        | nil => exact absurd rfl (hnil args)
        | cons v vs => exact absurd rfl (hcons v vs args)
      | sql text => rfl

theorem takeMarks_mask (n : Nat) (args : List Argument) :
    takeMarks n (args.map Argument.mask) =
      (takeMarks n args).map fun (fragments, surplus) =>
        (fragments.map Fragment.mask, surplus.map hide) := by
  have hne : BindValue.hidden ≠ .null := by rintro ⟨⟩
  fun_induction takeMarks n args with
  | case1 n => rfl
  | case2 n args => rfl
  | case3 n v args hv ih =>
    rw [List.map_cons, Argument.mask_scalar hv, takeMarks, ih]
    · cases takeMarks n args <;> rfl
    · exact hne
  | case4 v args hv ih =>
    rw [List.map_cons, Argument.mask_scalar hv, takeMarks, ih]
    · cases takeMarks 0 args with
      | error fault => rfl
      | ok p =>
        obtain ⟨fragments, surplus⟩ := p
        cases surplus <;> rfl
    · exact hne
  | case5 n text args ih =>
    rw [List.map_cons, Argument.mask, takeMarks, ih]
    cases takeMarks n args <;> rfl
  | case6 text args => rfl
  | case7 n vs args => rfl

/-! ### The statement -/

theorem lookup_mask (names : List (List Char × Fragment)) (name : List Char) :
    (names.map fun (name, f) => (name, f.mask)).lookup name =
      (names.lookup name).map Fragment.mask := by
  induction names with
  | nil => rfl
  | cons entry names ih =>
    rw [List.map_cons, List.lookup_cons, List.lookup_cons, ih]
    split <;> rfl

theorem renderTokens_mask (names : List (List Char × Fragment)) (ts : List Token)
    (lists bare : List Fragment) :
    renderTokens (names.map fun (name, f) => (name, f.mask)) ts (lists.map Fragment.mask)
        (bare.map Fragment.mask) =
      (renderTokens names ts lists bare).map Fragment.mask := by
  -- A token that keeps its own text has no values to hide.
  have htext (t : Token) : t.fragment.mask = t.fragment := rfl
  induction ts generalizing lists bare with
  | nil => rfl
  | cons t ts ih =>
    cases t with
    | named name =>
      rw [renderTokens, renderTokens, lookup_mask, ih, List.map_cons]
      cases names.lookup name <;> rfl
    | inList cs =>
      cases lists with
      | nil => exact congrArg _ (ih [] bare)
      | cons f lists => exact congrArg _ (ih lists bare)
    | bare =>
      cases bare with
      | nil => exact congrArg _ (ih lists [])
      | cons f bare => exact congrArg _ (ih lists bare)
    | text cs => exact congrArg _ (ih lists bare)
    | inert cs => exact congrArg _ (ih lists bare)

theorem Fragment.concat_mask (fs : List Fragment) : concat (fs.map mask) = (concat fs).mask := by
  induction fs with
  | nil => rfl
  | cons f fs ih =>
    rw [List.map_cons, concat, ih]
    exact congrArg (Fragment.mk _) (hide_append _ _).symm

theorem statement_mask (fs : List Fragment) (surplus : List BindValue) (empty : Bool) :
    statement (fs.map Fragment.mask) (hide surplus) empty = (statement fs surplus empty).mask := by
  rw [statement, Fragment.concat_mask, statement, BoundStatement.mask, hide_append]
  rfl

theorem checkCount_mask (b : BoundStatement) :
    checkCount b.mask = (checkCount b).map BoundStatement.mask := by
  have hlength : b.mask.values.length = b.values.length := length_hide b.values
  rw [checkCount, checkCount, hlength]
  change (if b.placeholders = b.values.length then _ else _) = _
  split <;> rfl

/-- **Hiding the values before binding is hiding them after it.** -/
theorem bindTemplate_mask (template : String) (args : List Argument) :
    bindTemplate template (args.map Argument.mask) =
      (bindTemplate template args).map BoundStatement.mask := by
  unfold bindTemplate
  dsimp only
  rw [assignNames_mask]
  cases assignNames (distinctNames (tokens template.toList)) args with
  | error fault => rfl
  | ok p =>
    obtain ⟨names, args⟩ := p
    simp only [Except.map]
    rw [takeLists_mask]
    cases takeLists ((tokens template.toList).countP Token.isInList) args with
    | error fault => rfl
    | ok p =>
      obtain ⟨lists, _ | args⟩ := p
      · simp only [Except.map, Option.map_none]
        rw [← statement_mask, ← renderTokens_mask]
        rfl
      simp only [Except.map, Option.map_some]
      rw [takeMarks_mask]
      cases takeMarks ((tokens template.toList).countP Token.isBare) args with
      | error fault => rfl
      | ok p =>
        obtain ⟨bare, _ | surplus⟩ := p
        · simp only [Except.map, Option.map_none]
          rw [← statement_mask, ← renderTokens_mask]
          rfl
        · simp only [Except.map, Option.map_some]
          rw [renderTokens_mask, statement_mask, checkCount_mask]
          rfl

/-! ### Where the text comes from -/

/-- What takes the place of a token where no argument is SQL text: the text of the token, or one
that says of an argument only how many values it has. -/
inductive Token.Renders : Token → String → Prop where
  /-- The text of the token. -/
  | source (t : Token) : Renders t (String.ofList t.source)
  /-- A name for which there is no value. -/
  | null (name : List Char) : Renders (.named name) "NULL"
  /-- A name for which there is an empty list. -/
  | noValues (name : List Char) : Renders (.named name) "(NULL)"
  /-- A name for which there are values. -/
  | marks (name : List Char) (n : Nat) : Renders (.named name) (BoundQuery.marks n)
  /-- An `IN` list. -/
  | list (cs : List Char) (n : Nat) : Renders (.inList cs) ("IN (" ++ BoundQuery.marks n ++ ")")

theorem renders_named {a : Argument} (ha : a.isSql = false) (name : List Char) :
    Token.Renders (.named name) a.named.sql := by
  cases a with
  | scalar v =>
    cases v with
    | null => exact .null name
    | _ => exact .marks name 1
  | list vs =>
    cases vs with
    | nil => exact .noValues name
    | cons v vs => exact .marks name (vs.length + 1)
  | sql text => cases ha

theorem isSql_of_assignNames {names : List (List Char)} {args rest : List Argument}
    {assigned : List (List Char × Fragment)} (h : assignNames names args = .ok (assigned, rest))
    (hargs : ∀ a ∈ args, a.isSql = false) :
    (∀ e ∈ assigned, ∃ a : Argument, a.isSql = false ∧ e.2 = a.named) ∧
      ∀ a ∈ rest, a.isSql = false := by
  fun_induction assignNames names args generalizing assigned rest with
  | case1 args =>
    cases h
    exact ⟨List.forall_mem_nil _, hargs⟩
  | case2 name names => cases h
  | case3 name names a args ih =>
    obtain ⟨⟨assigned', rest'⟩, hassign, heq⟩ := map_eq_ok_iff.1 h
    obtain ⟨rfl, rfl⟩ := Prod.mk.inj heq
    obtain ⟨hfirst, hargs⟩ := List.forall_mem_cons.1 hargs
    obtain ⟨hassigned, hrest⟩ := ih hassign hargs
    exact ⟨List.forall_mem_cons.2 ⟨⟨a, hfirst, rfl⟩, hassigned⟩, hrest⟩

theorem isSql_of_takeLists {n : Nat} {args : List Argument} {fragments : List Fragment}
    {rest : Option (List Argument)} (h : takeLists n args = .ok (fragments, rest))
    (hargs : ∀ a ∈ args, a.isSql = false) :
    (∀ f ∈ fragments, ∃ n, f.sql = "IN (" ++ marks n ++ ")") ∧
      ∀ left, rest = some left → ∀ a ∈ left, a.isSql = false := by
  fun_induction takeLists n args generalizing fragments rest with
  | case1 args =>
    cases h
    refine ⟨List.forall_mem_nil _, ?_⟩
    rintro left ⟨⟩
    exact hargs
  | case2 n args =>
    cases h
    exact ⟨List.forall_mem_nil _, by rintro left ⟨⟩⟩
  | case3 n v vs args ih =>
    obtain ⟨⟨fs, left⟩, htake, heq⟩ := map_eq_ok_iff.1 h
    obtain ⟨rfl, rfl⟩ := Prod.mk.inj heq
    obtain ⟨hfs, hleft⟩ := ih htake (List.forall_mem_cons.1 hargs).2
    exact ⟨List.forall_mem_cons.2 ⟨⟨vs.length + 1, rfl⟩, hfs⟩, hleft⟩
  | case4 n args => cases h

theorem sql_of_takeMarks {n : Nat} {args : List Argument} {fragments : List Fragment}
    {surplus : Option (List BindValue)} (h : takeMarks n args = .ok (fragments, surplus))
    (hargs : ∀ a ∈ args, a.isSql = false) : ∀ f ∈ fragments, f.sql = "?" := by
  fun_induction takeMarks n args generalizing fragments surplus with
  | case1 n | case2 n args =>
    cases h
    exact List.forall_mem_nil _
  | case3 n v args hv ih =>
    obtain ⟨⟨fs, left⟩, htake, heq⟩ := map_eq_ok_iff.1 h
    obtain ⟨rfl, rfl⟩ := Prod.mk.inj heq
    exact List.forall_mem_cons.2 ⟨rfl, ih htake (List.forall_mem_cons.1 hargs).2⟩
  | case4 v args hv ih =>
    obtain ⟨⟨fs, left⟩, htake, heq⟩ := map_eq_ok_iff.1 h
    obtain ⟨rfl, rfl⟩ := Prod.mk.inj heq
    exact ih htake (List.forall_mem_cons.1 hargs).2
  | case5 n text args ih => cases (List.forall_mem_cons.1 hargs).1
  | case6 text args => cases h
  | case7 n vs args => cases h

/-- Tokens are rendered one by one. -/
theorem renders_renderTokens {names : List (List Char × Fragment)} {lists bare : List Fragment}
    (hnames : ∀ e ∈ names, ∃ a : Argument, a.isSql = false ∧ e.2 = a.named)
    (hlists : ∀ f ∈ lists, ∃ n, f.sql = "IN (" ++ marks n ++ ")")
    (hbare : ∀ f ∈ bare, f.sql = "?") (ts : List Token) :
    List.Forall₂ Token.Renders ts ((renderTokens names ts lists bare).map Fragment.sql) := by
  induction ts generalizing lists bare with
  | nil => exact .nil
  | cons t ts ih =>
    cases t with
    | named name =>
      refine .cons ?_ (ih hlists hbare)
      cases hlookup : names.lookup name with
      | none => exact .source _
      | some f =>
        obtain ⟨before, after, hsplit, -⟩ := List.lookup_eq_some_iff.1 hlookup
        obtain ⟨a, ha, hf⟩ := hnames (name, f) (by simp [hsplit])
        obtain rfl : f = a.named := hf
        exact renders_named ha name
    | inList cs =>
      cases lists with
      | nil => exact .cons (.source _) (ih hlists hbare)
      | cons f lists =>
        obtain ⟨⟨n, hn⟩, hlists⟩ := List.forall_mem_cons.1 hlists
        exact .cons (hn ▸ .list cs n) (ih hlists hbare)
    | bare =>
      cases bare with
      | nil => exact .cons (.source _) (ih hlists hbare)
      | cons f bare =>
        obtain ⟨hf, hbare⟩ := List.forall_mem_cons.1 hbare
        exact .cons (hf ▸ .source .bare) (ih hlists hbare)
    | text cs => exact .cons (.source _) (ih hlists hbare)
    | inert cs => exact .cons (.source _) (ih hlists hbare)

/-- The text of a statement is made of what its tokens are rendered to. -/
def Rendered (template sql : String) : Prop :=
  ∃ pieces : List String, sql.toList = pieces.flatMap String.toList ∧
    List.Forall₂ Token.Renders (tokens template.toList) pieces

/-- The text of the statement that a fault reports. -/
def BindFault.sql? : BindFault → Option String
  | .mismatch _ _ sql => some sql
  | _ => none

/-- The text that binding shows: that of the statement, or that in the report of a wrong number of
values. -/
def shownText? : Except BindFault BoundStatement → Option String
  | .ok b => some b.sql
  | .error fault => fault.sql?

theorem sql?_of_assignNames {names : List (List Char)} {args : List Argument} {fault : BindFault}
    (h : assignNames names args = .error fault) : fault.sql? = none := by
  fun_induction assignNames names args with
  | case1 args => cases h
  | case2 name names =>
    cases h
    rfl
  | case3 name names a args ih => exact ih (map_eq_error_iff.1 h)

theorem sql?_of_takeLists {n : Nat} {args : List Argument} {fault : BindFault}
    (h : takeLists n args = .error fault) : fault.sql? = none := by
  fun_induction takeLists n args with
  | case1 args => cases h
  | case2 n args => cases h
  | case3 n v vs args ih => exact ih (map_eq_error_iff.1 h)
  | case4 n args =>
    cases h
    rfl

theorem sql?_of_takeMarks {n : Nat} {args : List Argument} {fault : BindFault}
    (h : takeMarks n args = .error fault) : fault.sql? = none := by
  fun_induction takeMarks n args with
  | case1 n | case2 n args => cases h
  | case3 n v args hv ih | case4 v args hv ih | case5 n text args ih =>
    exact ih (map_eq_error_iff.1 h)
  | case6 text args | case7 n vs args =>
    cases h
    rfl

theorem shownText?_checkCount (b : BoundStatement) : shownText? (checkCount b) = some b.sql := by
  unfold checkCount
  split <;> rfl

theorem rendered_statement {template : String} {fragments : List Fragment}
    (h : List.Forall₂ Token.Renders (tokens template.toList) (fragments.map Fragment.sql))
    (surplus : List BindValue) (empty : Bool) :
    Rendered template (statement fragments surplus empty).sql := by
  refine ⟨_, ?_, h⟩
  rw [statement, Fragment.concat_sql, String.toList_ofList, List.flatMap_map]

/-- **Without SQL text among the arguments, every token keeps its text or becomes one that no
argument has a part in.** -/
theorem rendered_bindTemplate {template sql : String} {args : List Argument}
    (hargs : ∀ a ∈ args, a.isSql = false)
    (h : shownText? (bindTemplate template args) = some sql) : Rendered template sql := by
  unfold bindTemplate at h
  dsimp only at h
  split at h
  · rename_i hassign
    cases (sql?_of_assignNames hassign).symm.trans h
  rename_i names args hassign
  obtain ⟨hnames, hargs⟩ := isSql_of_assignNames hassign hargs
  split at h
  · rename_i hlists
    cases (sql?_of_takeLists hlists).symm.trans h
  · rename_i lists hlists
    obtain ⟨hfragments, -⟩ := isSql_of_takeLists hlists hargs
    cases h
    exact rendered_statement
      (renders_renderTokens hnames hfragments (List.forall_mem_nil _) _) _ _
  rename_i lists args hlists
  obtain ⟨hfragments, hargs⟩ := isSql_of_takeLists hlists hargs
  split at h
  · rename_i hmarks
    cases (sql?_of_takeMarks hmarks).symm.trans h
  · rename_i bare hmarks
    cases h
    exact rendered_statement
      (renders_renderTokens hnames hfragments (sql_of_takeMarks hmarks (hargs _ rfl)) _) _ _
  · rename_i bare surplus hmarks
    rw [shownText?_checkCount] at h
    cases h
    exact rendered_statement
      (renders_renderTokens hnames hfragments (sql_of_takeMarks hmarks (hargs _ rfl)) _) _ _

/-! ### Parameters -/

/-- A parameter that is no SQL text gives no SQL text, whatever it refers to. -/
theorem isSql_of_argument {c : Context} {p : Parameter} {a : Argument} (hp : p.kind ≠ .sql)
    (h : p.argument c = .ok a) : a.isSql = false := by
  unfold Parameter.argument at h
  split at h
  · cases h
  rename_i v hv
  have hnormalize := mapError_eq_ok h
  unfold normalize at hnormalize
  split at hnormalize
  · exact absurd ‹_› hp
  · exact absurd ‹_› hp
  · split at hnormalize <;> cases hnormalize
    rfl
  · split at hnormalize <;> cases hnormalize
    rfl

theorem isSql_of_mapM {c : Context} {ps : List Parameter} {args : List Argument}
    (hps : ∀ p ∈ ps, p.kind ≠ .sql) (h : ps.mapM (Parameter.argument c) = .ok args) :
    ∀ a ∈ args, a.isSql = false := by
  have hall := mapM_eq_ok_iff.1 h
  clear h
  induction hall with
  | nil => exact List.forall_mem_nil _
  | cons hp _ ih =>
    obtain ⟨hfirst, hps⟩ := List.forall_mem_cons.1 hps
    exact List.forall_mem_cons.2 ⟨isSql_of_argument hfirst hp, ih hps⟩

theorem ne_binding_of_argument {c : Context} {p : Parameter} {fault : BindFault} :
    p.argument c ≠ .error (.binding fault) := by
  unfold Parameter.argument
  split
  · rintro ⟨⟩
  · rename_i v hv
    cases normalize p.kind v <;> rintro ⟨⟩

/-- What binding parameters gives is what binding their arguments gives. -/
theorem exists_arguments {c : Context} {template : String} {ps : List Parameter}
    (result : Except BindFault BoundStatement)
    (h : bindParameters c template ps = result.mapError .binding) :
    ∃ args, ps.mapM (Parameter.argument c) = .ok args ∧ bindTemplate template args = result := by
  unfold bindParameters at h
  split at h
  · rename_i fault hfault
    obtain ⟨p, -, hp⟩ := exists_of_mapM_eq_error hfault
    cases result with
    | ok b => cases h
    | error fault' =>
      cases h
      exact absurd hp ne_binding_of_argument
  · rename_i args hargs
    refine ⟨args, hargs, ?_⟩
    cases hbind : bindTemplate template args <;> cases result <;> rw [hbind] at h <;> cases h <;>
      rfl

/-! ### Two bindings -/

/-- Whether two bindings show the same. -/
inductive SameText :
    Except BindFault BoundStatement → Except BindFault BoundStatement → Prop where
  /-- Both give a statement, with the same text and the same number of values. -/
  | ok {a b : BoundStatement} (hsql : a.sql = b.sql) (hempty : a.empty = b.empty)
    (hvalues : a.values.length = b.values.length) : SameText (.ok a) (.ok b)
  /-- Both report the same fault. -/
  | error (fault : BindFault) : SameText (.error fault) (.error fault)

theorem sameText_of_mask_eq {r q : Except BindFault BoundStatement}
    (h : r.map BoundStatement.mask = q.map BoundStatement.mask) : SameText r q := by
  match r, q with
  | .error fault, .error _ =>
    cases h
    exact .error fault
  | .ok a, .ok b =>
    have hmask : a.mask = b.mask := Except.ok.inj h
    have hsql : a.mask.sql = b.mask.sql := congrArg _ hmask
    have hempty : a.mask.empty = b.mask.empty := congrArg _ hmask
    have hvalues : a.mask.values = b.mask.values := congrArg _ hmask
    exact .ok hsql hempty (hide_eq_iff.1 hvalues)
  | .error _, .ok _ | .ok _, .error _ => cases h

/-- **No value enters a text.**  Two lists of arguments that differ in their values only are bound
to the same text, or the same fault is reported for both.  And where no parameter is SQL text, the
text of the statement, or of a report, is put together token by token from the template and from
texts that no parameter and no earlier result has a part in. -/
theorem bindTemplate_sameShape (template : String) :
    (∀ as bs : List Argument, List.Forall₂ Argument.SameShape as bs →
      SameText (bindTemplate template as) (bindTemplate template bs)) ∧
    ∀ (c : Context) (ps : List Parameter), (∀ p ∈ ps, p.kind ≠ .sql) →
      (∀ b, bindParameters c template ps = .ok b → Rendered template b.sql) ∧
      ∀ fault sql, bindParameters c template ps = .error (.binding fault) →
        fault.sql? = some sql → Rendered template sql := by
  refine ⟨fun as bs h => sameText_of_mask_eq ?_, fun c ps hps => ⟨fun b hb => ?_,
    fun fault sql hb hfault => ?_⟩⟩
  · have hmask : as.map Argument.mask = bs.map Argument.mask := by
      rw [← List.forall₂_eq_eq_eq, List.forall₂_map_left_iff, List.forall₂_map_right_iff]
      exact h.imp fun a b => Argument.mask_eq_iff.2
    rw [← bindTemplate_mask, ← bindTemplate_mask, hmask]
  · obtain ⟨args, hargs, hbind⟩ := exists_arguments (.ok b) hb
    exact rendered_bindTemplate (isSql_of_mapM hps hargs) (by rw [hbind]; rfl)
  · obtain ⟨args, hargs, hbind⟩ := exists_arguments (.error fault) hb
    exact rendered_bindTemplate (isSql_of_mapM hps hargs) (by rw [hbind]; exact hfault)

/-- Values that look like SQL, one of them from an earlier result, and one too many. -/
theorem bindTemplate_sameShape_injected :
    SameText
        (bindTemplate "DELETE FROM t WHERE a = :a AND b IN (?) AND c = ?"
          [.scalar (.text "' OR 1 = 1 --"), .list [.int 1, .null], .scalar (.bool true)])
        (bindTemplate "DELETE FROM t WHERE a = :a AND b IN (?) AND c = ?"
          [.scalar (.int 7), .list [.text "?", .text ":a"], .scalar (.text "NULL; DROP TABLE t")]) ∧
      bindParameters (Context.empty.insert "output0" (.string "x' OR 'x' = 'x"))
          "DELETE FROM t WHERE a = ?" [⟨.string, .string "$\x7boutput0\x7d"⟩] =
        .ok ⟨"DELETE FROM t WHERE a = ?", [.text "x' OR 'x' = 'x"], false⟩ ∧
      Rendered "DELETE FROM t WHERE a = ?" "DELETE FROM t WHERE a = ?" ∧
      bindParameters .empty "a = :a" [⟨.string, .string "?"⟩, ⟨.string, .string "? --"⟩] =
        .error (.binding (.mismatch 1 2 "a = ?")) ∧
      Rendered "a = :a" "a = ?" := by
  have hbind : bindParameters (Context.empty.insert "output0" (.string "x' OR 'x' = 'x"))
      "DELETE FROM t WHERE a = ?" [⟨.string, .string "$\x7boutput0\x7d"⟩] =
        .ok ⟨"DELETE FROM t WHERE a = ?", [.text "x' OR 'x' = 'x"], false⟩ :=
    toOption_eq_some_iff.1 (by decide +kernel)
  have hargs : [⟨.string, .string "?"⟩, ⟨.string, .string "? --"⟩].mapM
      (Parameter.argument .empty) = .ok [.scalar (.text "?"), .scalar (.text "? --")] :=
    toOption_eq_some_iff.1 (by decide +kernel)
  have hmany : bindTemplate "a = :a" [.scalar (.text "?"), .scalar (.text "? --")] =
      .error (.mismatch 1 2 "a = ?") := by decide +kernel
  have hfault : bindParameters .empty "a = :a"
      [⟨.string, .string "?"⟩, ⟨.string, .string "? --"⟩] =
        .error (.binding (.mismatch 1 2 "a = ?")) := by
    rw [bindParameters, hargs]
    dsimp only
    rw [hmany]
    rfl
  refine ⟨(bindTemplate_sameShape _).1 _ _ ?_, hbind,
    ((bindTemplate_sameShape _).2 _ _ (by simp)).1 _ hbind, hfault,
    ((bindTemplate_sameShape _).2 _ _ (by simp)).2 _ _ hfault rfl⟩
  exact .cons (.value (by decide) (by decide)) (.cons (.list rfl)
    (.cons (.value (by decide) (by decide)) .nil))

end BoundQuery
