import BoundQuery.Proofs.Scan.Placeholder
import BoundQuery.Template.Binding

/-!
# Which argument a token takes

`bindTemplate` consumes its arguments in three passes.  A `Filling` says the same without passes:
every token has the number of its argument.  Distinct names come first, in the order in which they
first occur, then the `IN` lists, then the marks that stand alone.

* `Filling.index?`, `Filling.argument?` : the argument of a token;
* `Filling.values`, `Filling.text` : the values and the text that a token gives for it;
* `Filling.valueStart`, `Filling.textStart` : where these begin in the statement;
* `Filling.Fits` : the arguments for which binding neither fails nor ends early in one of its
  passes;
* `bindTemplate_of_fits`, `fits_of_bindTemplate` : **for such arguments, and only for them, binding
  puts the texts and the values of all tokens one after the other** and then compares the numbers.
-/

namespace BoundQuery

/-- The values that an argument binds. -/
def Argument.values : Argument → List BindValue
  | .scalar .null => []
  | .scalar v => [v]
  | .list vs => vs
  | .sql _ => []

/-- Whether an argument is a list with at least one value. -/
def Argument.isFullList : Argument → Bool
  | .list (_ :: _) => true
  | _ => false

/-- Whether an argument is one value that is not `null`. -/
def Argument.isValue : Argument → Bool
  | .scalar .null => false
  | .scalar _ => true
  | _ => false

/-- Whether an argument is SQL text. -/
def Argument.isSql : Argument → Bool
  | .sql _ => true
  | _ => false

/-- What takes the place of an `IN` list. -/
def Argument.listed (a : Argument) : Fragment :=
  ⟨"IN (" ++ marks a.values.length ++ ")", a.values⟩

/-- What takes the place of a token. -/
def Token.filled : Token → Argument → Fragment
  | .inList _, a => a.listed
  | _, a => a.named

/-- The tokens of a template with the arguments that are given for them. -/
structure Filling where
  /-- The tokens. -/
  tokens : List Token
  /-- The arguments, in the order in which they are given. -/
  arguments : List Argument

namespace Filling

/-- A template and its arguments. -/
def of (template : String) (args : List Argument) : Filling :=
  ⟨BoundQuery.tokens template.toList, args⟩

variable (F : Filling)

/-- The number of distinct names. -/
def nameCount : Nat := (distinctNames F.tokens).length

/-- The number of `IN` lists. -/
def listCount : Nat := F.tokens.countP Token.isInList

/-- The number of marks that stand alone. -/
def markCount : Nat := F.tokens.countP Token.isBare

/-- The number of arguments for which there is a place. -/
def slotCount : Nat := F.nameCount + F.listCount + F.markCount

/-- The number of the argument that the token at a place takes. -/
def index? (i : Nat) : Option Nat :=
  match F.tokens[i]? with
  | some (.named name) => some ((distinctNames F.tokens).idxOf name)
  | some (.inList _) => some (F.nameCount + (F.tokens.take i).countP Token.isInList)
  | some .bare => some (F.nameCount + F.listCount + (F.tokens.take i).countP Token.isBare)
  | _ => none

/-- The argument that the token at a place takes, if there are enough. -/
def argument? (i : Nat) : Option Argument := (F.index? i).bind (F.arguments[·]?)

/-- The values of the token at a place. -/
def values (i : Nat) : List BindValue := (F.argument? i).elim [] Argument.values

/-- The text of the token at a place: that for its argument, or its own. -/
def text (i : Nat) : List Char :=
  match F.tokens[i]? with
  | none => []
  | some t => (F.argument? i).elim t.source fun a => (t.filled a).sql.toList

/-- Where the values of the token at a place begin among the values of all tokens. -/
def valueStart (i : Nat) : Nat := ((List.range i).flatMap F.values).length

/-- Where the text of the token at a place begins in the text of all tokens. -/
def textStart (i : Nat) : Nat := ((List.range i).flatMap F.text).length

/-- The values for which there is no token. -/
def surplus : List BindValue :=
  (F.arguments.drop F.slotCount).flatMap Argument.values

/-- The texts and the values of all tokens one after the other. -/
def statement : BoundStatement where
  sql := String.ofList ((List.range F.tokens.length).flatMap F.text)
  values := (List.range F.tokens.length).flatMap F.values ++ F.surplus
  empty := false

/-- The arguments with which binding comes to the end of its passes. -/
structure Fits : Prop where
  /-- There is one argument for every name and every `IN` list. -/
  enough : F.nameCount + F.listCount ≤ F.arguments.length
  /-- An `IN` list takes a list that is not empty. -/
  lists : ∀ a ∈ (F.arguments.drop F.nameCount).take F.listCount, a.isFullList = true
  /-- A mark that stands alone takes a value or SQL text. -/
  marks : ∀ a ∈ F.arguments.drop (F.nameCount + F.listCount),
    a.isValue = true ∨ a.isSql = true
  /-- What is left over is values. -/
  rest : ∀ a ∈ F.arguments.drop F.slotCount, a.isValue = true

end Filling

/-! ### Single tokens -/

theorem countP_take_lt {α : Type} {p : α → Bool} {l : List α} {i : Nat} {a : α}
    (h : l[i]? = some a) (ha : p a = true) : (l.take i).countP p < l.countP p := by
  obtain ⟨hi, rfl⟩ := List.getElem?_eq_some_iff.1 h
  calc (l.take i).countP p < (l.take (i + 1)).countP p := by
        rw [List.take_add_one, h, List.countP_append]
        simp [ha]
    _ ≤ l.countP p := (List.take_sublist _ _).countP_le

namespace Filling

variable {F : Filling}

theorem isSlot_of_argument? {i : Nat} {a : Argument} (h : F.argument? i = some a) :
    ∃ t, F.tokens[i]? = some t ∧ t.isSlot = true := by
  unfold argument? index? at h
  cases ht : F.tokens[i]? with
  | none => simp [ht] at h
  | some t =>
    refine ⟨t, rfl, ?_⟩
    cases t <;> simp [ht, Token.isSlot] at h ⊢

theorem text_of_none {i : Nat} {t : Token} (ht : F.tokens[i]? = some t)
    (h : F.argument? i = none) : F.text i = t.source := by
  rw [text, ht, h]
  rfl

theorem text_of_some {i : Nat} {t : Token} {a : Argument} (ht : F.tokens[i]? = some t)
    (h : F.argument? i = some a) : F.text i = (t.filled a).sql.toList := by
  rw [text, ht, h]
  rfl

theorem argument?_inList {i : Nat} {cs : List Char} (ht : F.tokens[i]? = some (.inList cs)) :
    F.argument? i = F.arguments[F.nameCount + (F.tokens.take i).countP Token.isInList]? := by
  rw [argument?, index?, ht]
  rfl

theorem argument?_bare {i : Nat} (ht : F.tokens[i]? = some .bare) :
    F.argument? i =
      F.arguments[F.nameCount + F.listCount + (F.tokens.take i).countP Token.isBare]? := by
  rw [argument?, index?, ht]
  rfl

theorem argument?_mem {i : Nat} {a : Argument} (h : F.argument? i = some a) :
    a ∈ F.arguments := by
  obtain ⟨x, -, hx⟩ := Option.bind_eq_some_iff.1 h
  exact List.mem_of_getElem? hx

/-- With an argument for every name and every `IN` list, only a mark that stands alone can be left
over. -/
theorem eq_bare_of_none (henough : F.nameCount + F.listCount ≤ F.arguments.length) {i : Nat}
    {t : Token} (ht : F.tokens[i]? = some t) (ha : F.argument? i = none)
    (hs : t.isPlaceholder = true) : t = .bare := by
  cases t with
  | bare => rfl
  | inList cs =>
    have hl : (F.tokens.take i).countP Token.isInList < F.listCount := countP_take_lt ht rfl
    rw [argument?_inList ht, List.getElem?_eq_none_iff] at ha
    omega
  | _ => cases hs

theorem values_of_none {i : Nat} (h : F.argument? i = none) : F.values i = [] := by
  rw [values, h]
  rfl

theorem values_of_some {i : Nat} {a : Argument} (h : F.argument? i = some a) :
    F.values i = a.values := by
  rw [values, h]
  rfl

/-- A token with values has an argument, which is no SQL text. -/
theorem exists_argument_of_values {i : Nat} (h : F.values i ≠ []) :
    ∃ a, F.argument? i = some a ∧ a.isSql = false := by
  cases ha : F.argument? i with
  | none => exact absurd (values_of_none ha) h
  | some a =>
    rw [values_of_some ha] at h
    refine ⟨a, rfl, ?_⟩
    cases a with
    | sql text => exact absurd rfl h
    | _ => rfl

theorem lt_length_of_values {i : Nat} (h : F.values i ≠ []) : i < F.tokens.length := by
  obtain ⟨a, ha, -⟩ := exists_argument_of_values h
  obtain ⟨t, ht, -⟩ := isSlot_of_argument? ha
  exact (List.getElem?_eq_some_iff.1 ht).1

/-! ### All tokens in front of one -/

@[simp] theorem valueStart_zero : F.valueStart 0 = 0 := rfl

theorem valueStart_succ (i : Nat) :
    F.valueStart (i + 1) = F.valueStart i + (F.values i).length := by
  simp [valueStart, List.range_succ]

theorem length_statement_values :
    F.statement.values.length = F.valueStart F.tokens.length + F.surplus.length :=
  List.length_append

theorem valueStart_of_le {i : Nat} (h : F.tokens.length ≤ i) :
    F.valueStart i = F.valueStart F.tokens.length := by
  induction i, h using Nat.le_induction with
  | base => rfl
  | succ i hi ih =>
    have hnil : F.values i = [] := by
      by_contra hne
      exact absurd (lt_length_of_values hne) (Nat.not_lt.2 hi)
    rw [valueStart_succ, ih, hnil, List.length_nil, Nat.add_zero]

theorem flatMap_range_prefix {α : Type} (f : Nat → List α) {i j : Nat} (h : i ≤ j) :
    (List.range i).flatMap f <+: (List.range j).flatMap f := by
  induction j, h using Nat.le_induction with
  | base => exact List.prefix_rfl
  | succ j _ ih =>
    rw [List.range_succ, List.flatMap_append]
    exact ih.trans (List.prefix_append _ _)

/-- Where the values of a token are among those of the statement. -/
theorem getElem?_statement_values {i q : Nat} {v : BindValue} (h : (F.values i)[q]? = some v) :
    F.statement.values[F.valueStart i + q]? = some v := by
  have hne : F.values i ≠ [] := by
    intro hnil
    rw [hnil] at h
    cases h
  obtain ⟨rest, hrest⟩ := flatMap_range_prefix F.values (lt_length_of_values hne)
  -- The values in front of the token, then its own, then the others and the surplus.
  have hq : q < (F.values i).length := (List.getElem?_eq_some_iff.1 h).1
  rw [List.range_succ, List.flatMap_append, List.flatMap_singleton] at hrest
  rw [statement, ← hrest, List.append_assoc, List.append_assoc, valueStart,
    List.getElem?_append_right (Nat.le_add_right _ _), Nat.add_sub_cancel_left,
    List.getElem?_append_left hq, h]

end Filling

/-! ### The three passes -/

theorem Argument.values_named (a : Argument) : a.named.values = a.values := by
  cases a with
  | scalar v => cases v <;> rfl
  | list vs => cases vs <;> rfl
  | sql text => rfl

theorem assignNames_of_le {names : List (List Char)} {args : List Argument}
    (h : names.length ≤ args.length) :
    assignNames names args =
      .ok (names.zip (args.map Argument.named), args.drop names.length) := by
  induction names generalizing args with
  | nil => rfl
  | cons name names ih =>
    cases args with
    | nil => simp at h
    | cons a args =>
      rw [assignNames, ih (by simpa using h)]
      rfl

theorem assignNames_of_lt {names : List (List Char)} {args : List Argument}
    (h : args.length < names.length) : ∃ fault, assignNames names args = .error fault := by
  induction names generalizing args with
  | nil => simp at h
  | cons name names ih =>
    cases args with
    | nil => exact ⟨_, rfl⟩
    | cons a args =>
      have hlt : args.length < names.length := by simpa using h
      obtain ⟨fault, hf⟩ := ih hlt
      exact ⟨fault, by rw [assignNames, hf]; rfl⟩

/-- A pass that puts one fragment in front of those of the pass after it. -/
theorem takeNext_eq_ok_iff {α : Type} {e : Except BindFault (List Fragment × Option α)}
    {f : Fragment} {P Q : Prop} {gs : List Fragment} {b : α}
    (h : ∀ {fs : List Fragment} {o : α}, e = .ok (fs, some o) ↔ P ∧ Q ∧ fs = gs ∧ o = b)
    {fs : List Fragment} {o : α} :
    (e.map fun (x, y) => (f :: x, y)) = .ok (fs, some o) ↔
      P ∧ Q ∧ fs = f :: gs ∧ o = b := by
  constructor
  · intro he
    cases e with
    | error fault => simp [Except.map] at he
    | ok p =>
      obtain ⟨x, y⟩ := p
      simp only [Except.map, Except.ok.injEq, Prod.mk.injEq] at he
      obtain ⟨rfl, rfl⟩ := he
      obtain ⟨hP, hQ, rfl, rfl⟩ := h.1 rfl
      exact ⟨hP, hQ, rfl, rfl⟩
  · rintro ⟨hP, hQ, rfl, rfl⟩
    rw [h.2 ⟨hP, hQ, rfl, rfl⟩]
    rfl

theorem takeLists_eq_ok_iff {n : Nat} {args rest : List Argument} {fragments : List Fragment} :
    takeLists n args = .ok (fragments, some rest) ↔
      n ≤ args.length ∧ (∀ a ∈ args.take n, a.isFullList = true) ∧
        fragments = (args.take n).map Argument.listed ∧ rest = args.drop n := by
  induction n generalizing args rest fragments with
  | zero =>
    constructor
    · rintro ⟨⟩
      exact ⟨Nat.zero_le _, by simp, rfl, rfl⟩
    · rintro ⟨-, -, rfl, rfl⟩
      rfl
  | succ n ih =>
    cases args with
    | nil => simp [takeLists]
    | cons a args =>
      rcases a with v | (_ | ⟨v, vs⟩) | text
      · simp [takeLists, Argument.isFullList]
      · simp [takeLists, Argument.isFullList]
      · have hl : (Argument.list (v :: vs)).listed =
            ⟨"IN (" ++ marks (vs.length + 1) ++ ")", v :: vs⟩ := rfl
        simp only [takeLists, List.length_cons, List.take_succ_cons, List.mem_cons,
          forall_eq_or_imp, Argument.isFullList, true_and, List.map_cons, List.drop_succ_cons,
          Nat.add_le_add_iff_right, hl]
        exact takeNext_eq_ok_iff ih
      · simp [takeLists, Argument.isFullList]

theorem Argument.named_scalar {v : BindValue} (h : v ≠ .null) :
    (Argument.scalar v).named = ⟨"?", [v]⟩ := by cases v <;> first | rfl | contradiction

theorem Argument.values_scalar {v : BindValue} (h : v ≠ .null) :
    (Argument.scalar v).values = [v] := by cases v <;> first | rfl | contradiction

theorem Argument.isValue_scalar {v : BindValue} (h : v ≠ .null) :
    (Argument.scalar v).isValue = true := by cases v <;> first | rfl | contradiction

theorem Argument.length_values {a : Argument} (h : a.isValue = true) : a.values.length = 1 := by
  cases a with
  | scalar v =>
    have hv : v ≠ .null := by
      rintro rfl
      cases h
    rw [Argument.values_scalar hv]
    rfl
  | _ => cases h

theorem takeMarks_eq_ok_iff {n : Nat} {args : List Argument} {fragments : List Fragment}
    {surplus : List BindValue} :
    takeMarks n args = .ok (fragments, some surplus) ↔
      (∀ a ∈ args, a.isValue = true ∨ a.isSql = true) ∧
        (∀ a ∈ args.drop n, a.isValue = true) ∧ fragments = (args.take n).map Argument.named ∧
        surplus = (args.drop n).flatMap Argument.values := by
  fun_induction takeMarks n args generalizing fragments surplus with
  | case1 n =>
    constructor
    · rintro ⟨⟩
      exact ⟨nofun, by simp, by simp, by simp⟩
    · rintro ⟨-, -, rfl, rfl⟩
      simp
  | case2 n args => simp [Argument.isValue, Argument.isSql]
  | case3 n v args hne ih =>
    simp only [List.mem_cons, forall_eq_or_imp, Argument.isValue_scalar hne, true_or, true_and,
      List.drop_succ_cons, List.take_succ_cons, List.map_cons, Argument.named_scalar hne]
    exact takeNext_eq_ok_iff ih
  | case4 v args hne ih =>
    simp only [List.mem_cons, forall_eq_or_imp, Argument.isValue_scalar hne, true_or, true_and,
      List.drop_zero, List.take_zero, List.map_nil, List.flatMap_cons,
      Argument.values_scalar hne] at ih ⊢
    constructor
    · intro he
      cases ht : takeMarks 0 args with
      | error fault => simp [ht, Except.map] at he
      | ok p =>
        obtain ⟨fs, o⟩ := p
        simp only [ht, Except.map, Except.ok.injEq, Prod.mk.injEq] at he
        obtain ⟨rfl, ho⟩ := he
        obtain ⟨left, rfl, rfl⟩ := Option.map_eq_some_iff.1 ho
        obtain ⟨hm, hr, rfl, rfl⟩ := ih.1 ht
        exact ⟨hm, hr, rfl, rfl⟩
    · rintro ⟨hm, hr, rfl, rfl⟩
      rw [ih.2 ⟨hm, hr, rfl, rfl⟩]
      rfl
  | case5 n text args ih =>
    simp only [List.mem_cons, forall_eq_or_imp, Argument.isSql, or_true, true_and,
      List.drop_succ_cons, List.take_succ_cons, List.map_cons, Argument.named]
    exact takeNext_eq_ok_iff ih
  | case6 text args => simp [Argument.isValue]
  | case7 n vs args => simp [Argument.isValue, Argument.isSql]

/-! ### Rendering -/

theorem lookup_zip {names : List (List Char)} {fragments : List Fragment} {name : List Char}
    (h : name ∈ names) :
    (names.zip fragments).lookup name = fragments[names.idxOf name]? := by
  induction names generalizing fragments with
  | nil => cases h
  | cons n names ih =>
    cases fragments with
    | nil => rfl
    | cons f fragments =>
      rw [List.zip_cons_cons, List.lookup_cons, List.idxOf_cons]
      by_cases hn : name = n
      · simp [hn]
      · have hmem : name ∈ names := (List.mem_cons.1 h).resolve_left hn
        rw [beq_false_of_ne hn, beq_false_of_ne (Ne.symm hn), ih hmem]
        simp

theorem mem_distinctNames {ts : List Token} {name : List Char} (h : Token.named name ∈ ts) :
    name ∈ distinctNames ts := by
  rw [distinctNames, List.mem_eraseDups, List.mem_filterMap]
  exact ⟨_, h, rfl⟩

/-- The fragment that a pass has for the token `t` with the tokens `ts` before it. -/
def Token.given (names : List (List Char × Fragment)) (lists bare : List Fragment)
    (ts : List Token) : Token → Option Fragment
  | .named name => names.lookup name
  | .inList _ => lists[ts.countP Token.isInList]?
  | .bare => bare[ts.countP Token.isBare]?
  | _ => none

theorem getElem?_renderTokens (names : List (List Char × Fragment)) (ts : List Token)
    (lists bare : List Fragment) (i : Nat) :
    (renderTokens names ts lists bare)[i]? =
      ts[i]?.map fun t => (t.given names lists bare (ts.take i)).getD t.fragment := by
  induction ts generalizing lists bare i with
  | nil => rfl
  | cons t ts ih =>
    cases i with
    | zero => cases t <;> cases lists <;> cases bare <;> rfl
    | succ i =>
      -- The passes move on by the token in front, so its count is added to those after it.
      have hstep : ∀ u : Token, u.given names lists bare (t :: ts.take i) =
          u.given names (lists.drop (if t.isInList then 1 else 0))
            (bare.drop (if t.isBare then 1 else 0)) (ts.take i) := by
        intro u
        cases u <;> simp [Token.given, List.countP_cons, Nat.add_comm]
      have hrender : (renderTokens names (t :: ts) lists bare)[i + 1]? =
          (renderTokens names ts (lists.drop (if t.isInList then 1 else 0))
            (bare.drop (if t.isBare then 1 else 0)))[i]? := by
        cases t <;> cases lists <;> cases bare <;> rfl
      rw [hrender, ih, List.getElem?_cons_succ, List.take_succ_cons]
      simp only [hstep]

theorem Token.filled_values (t : Token) (a : Argument) : (t.filled a).values = a.values := by
  cases t <;> first | rfl | exact a.values_named

namespace Filling

variable {F : Filling}

/-- What a pass has for a token is what takes its place. -/
theorem given_eq {i : Nat} {t : Token} (ht : F.tokens[i]? = some t) :
    t.given ((distinctNames F.tokens).zip (F.arguments.map Argument.named))
        (((F.arguments.drop F.nameCount).take F.listCount).map Argument.listed)
        (((F.arguments.drop (F.nameCount + F.listCount)).take F.markCount).map Argument.named)
        (F.tokens.take i) =
      (F.argument? i).map t.filled := by
  unfold argument? index?
  rw [ht]
  cases t with
  | text cs => rfl
  | inert cs => rfl
  | named name =>
    have hn := mem_distinctNames (List.mem_of_getElem? ht)
    simp only [Token.given, lookup_zip hn, List.getElem?_map, Option.bind_some]
    rfl
  | inList cs =>
    have hl : (F.tokens.take i).countP Token.isInList < F.listCount := countP_take_lt ht rfl
    simp only [Token.given, List.getElem?_map, List.getElem?_take_of_lt hl, List.getElem?_drop,
      Option.bind_some]
    rfl
  | bare =>
    have hb : (F.tokens.take i).countP Token.isBare < F.markCount := countP_take_lt ht rfl
    simp only [Token.given, List.getElem?_map, List.getElem?_take_of_lt hb, List.getElem?_drop,
      Option.bind_some]
    rfl

theorem filled_eq {i : Nat} {t : Token} (ht : F.tokens[i]? = some t) :
    ((F.argument? i).map t.filled).getD t.fragment = ⟨String.ofList (F.text i), F.values i⟩ := by
  unfold text values
  rw [ht]
  cases F.argument? i with
  | none => rfl
  | some a =>
    simp only [Option.map_some, Option.getD_some, Option.elim_some, String.ofList_toList,
      ← t.filled_values a]

theorem renderTokens_eq (F : Filling) :
    renderTokens ((distinctNames F.tokens).zip (F.arguments.map Argument.named)) F.tokens
        (((F.arguments.drop F.nameCount).take F.listCount).map Argument.listed)
        (((F.arguments.drop (F.nameCount + F.listCount)).take F.markCount).map Argument.named) =
      (List.range F.tokens.length).map fun i => ⟨String.ofList (F.text i), F.values i⟩ := by
  refine List.ext_getElem? fun i => ?_
  rw [getElem?_renderTokens, List.getElem?_map]
  cases ht : F.tokens[i]? with
  | none =>
    rw [List.getElem?_eq_none (by simpa using ht)]
    rfl
  | some t =>
    have hi : i < F.tokens.length := (List.getElem?_eq_some_iff.1 ht).1
    rw [List.getElem?_range hi, Option.map_some, Option.map_some, given_eq ht, filled_eq ht]

end Filling

theorem Fragment.concat_sql (fs : List Fragment) :
    (concat fs).sql = String.ofList (fs.flatMap fun f => f.sql.toList) := by
  induction fs with
  | nil => rfl
  | cons f fs ih =>
    rw [concat, ih, List.flatMap_cons, String.ofList_append, String.ofList_toList]

theorem Fragment.concat_values (fs : List Fragment) :
    (concat fs).values = fs.flatMap Fragment.values := by
  induction fs with
  | nil => rfl
  | cons f fs ih => rw [concat, ih, List.flatMap_cons]

theorem Filling.statement_eq (F : Filling) :
    BoundQuery.statement ((List.range F.tokens.length).map fun i =>
        ⟨String.ofList (F.text i), F.values i⟩) F.surplus false = F.statement := by
  rw [BoundQuery.statement, Fragment.concat_sql, Fragment.concat_values, List.flatMap_map,
    List.flatMap_map]
  simp only [String.toList_ofList]
  rfl

/-! ### Binding -/

section

variable {template : String} {args : List Argument}

/-- **With arguments that fit, binding compares the numbers and does nothing else.** -/
theorem bindTemplate_of_fits (h : (Filling.of template args).Fits) :
    bindTemplate template args = checkCount (Filling.of template args).statement := by
  let F := Filling.of template args
  -- Each pass succeeds and leaves to the next one what it does not take.
  have hnames : assignNames (distinctNames (tokens template.toList)) args =
      .ok ((distinctNames F.tokens).zip (args.map Argument.named), args.drop F.nameCount) :=
    assignNames_of_le (le_trans (Nat.le_add_right _ _) h.enough)
  have hlists : takeLists ((tokens template.toList).countP Token.isInList)
      (args.drop F.nameCount) =
      .ok (((args.drop F.nameCount).take F.listCount).map Argument.listed,
        some (args.drop (F.nameCount + F.listCount))) := by
    refine takeLists_eq_ok_iff.2 ⟨?_, h.lists, rfl, List.drop_drop.symm⟩
    rw [List.length_drop]
    exact Nat.le_sub_of_add_le' h.enough
  have hmarks : takeMarks ((tokens template.toList).countP Token.isBare)
      (args.drop (F.nameCount + F.listCount)) =
      .ok (((args.drop (F.nameCount + F.listCount)).take F.markCount).map Argument.named,
        some F.surplus) := by
    refine takeMarks_eq_ok_iff.2 ⟨h.marks, ?_, rfl, ?_⟩
    · rw [List.drop_drop]
      exact h.rest
    · rw [List.drop_drop]
      rfl
  rw [← F.statement_eq, ← F.renderTokens_eq]
  simp only [bindTemplate, hnames, hlists, hmarks]
  rfl

theorem checkCount_eq_ok_iff {s b : BoundStatement} :
    checkCount s = .ok b ↔ b = s ∧ s.placeholders = s.values.length := by
  unfold checkCount
  split
  · rename_i h
    simp [h, eq_comm]
  · rename_i h
    simp [h]

/-- Binding that ends with a statement to be executed has come to the end of its passes. -/
theorem fits_of_bindTemplate {b : BoundStatement} (h : bindTemplate template args = .ok b)
    (he : b.empty = false) : (Filling.of template args).Fits := by
  unfold bindTemplate at h
  by_cases hlt : args.length < (distinctNames (tokens template.toList)).length
  · obtain ⟨fault, hf⟩ := assignNames_of_lt hlt
    simp [hf] at h
  simp only [assignNames_of_le (Nat.le_of_not_lt hlt)] at h
  -- A pass that fails gives no statement, and one that ends early gives an empty one.
  split at h
  · cases h
  · cases h
    cases he
  rename_i lists rest hlists
  split at h
  · cases h
  · cases h
    cases he
  rename_i bare surplus hmarks
  obtain ⟨hl, hfull, -, rfl⟩ := takeLists_eq_ok_iff.1 hlists
  obtain ⟨hvalues, hrest, -, -⟩ := takeMarks_eq_ok_iff.1 hmarks
  rw [List.drop_drop, List.drop_drop, ← Nat.add_assoc] at hrest
  rw [List.drop_drop] at hvalues
  rw [List.length_drop] at hl
  refine ⟨?_, hfull, hvalues, hrest⟩
  change (distinctNames (tokens template.toList)).length +
    (tokens template.toList).countP Token.isInList ≤ args.length
  omega

/-- Binding that ends with a statement to be executed gives that of all tokens. -/
theorem eq_statement_of_bindTemplate {b : BoundStatement} (h : bindTemplate template args = .ok b)
    (he : b.empty = false) :
    b = (Filling.of template args).statement ∧ b.placeholders = b.values.length := by
  rw [bindTemplate_of_fits (fits_of_bindTemplate h he)] at h
  obtain ⟨rfl, hc⟩ := checkCount_eq_ok_iff.1 h
  exact ⟨rfl, hc⟩

end

end BoundQuery
