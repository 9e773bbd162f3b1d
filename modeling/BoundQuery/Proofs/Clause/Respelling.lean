import BoundQuery.Proofs.Clause.Sentinel
import BoundQuery.Proofs.Clause.Valid
import BoundQuery.Proofs.Reading.Canonical
import BoundQuery.Proofs.Reading.Fields
import BoundQuery.Proofs.Reading.Record
import BoundQuery.Proofs.Text.Trim
import BoundQuery.Reading.Query

/-!
# One condition in several spellings

A document may give a list of values as one text with commas, and a test against a list or a range
by a mode of its own or by an operator.  What a document says does not depend on that.

* `pieces` : the pieces of a text between commas, with the blanks around them;
* `Respelled` : two documents that spell one condition in two ways;
* `Json.trimmed` : what a reader of such a text keeps of its pieces, and all that a cast looks at;
* `Retold`, `Told` : a source or a field that is one with another, or its list in another spelling;
* `ConditionSlots.Alike`, `ConditionSlots.Tests`, `ConditionSlots.Valued` : what two readers have in
  their slots when they read two spellings side by side;
* `Scope.conditionFrom_respelled` : **all spellings of a condition compile to one fragment, or to one
  fault**, in every scope.
-/

namespace BoundQuery

open Text

/-! ### Spellings -/

/-- The pieces of a text between commas; a blank text has none. -/
def pieces (text : String) : List String :=
  if (trim text).isEmpty then [] else (text.toList.splitOn ',').map String.ofList

/-- The array of the pieces of a text. -/
def listed (text : String) : Source := .ofJson (.array ((pieces text).map .string))

/-- A test of a column against its values: the mode that it has of its own, and its operator. -/
inductive ListTest : String → Operator → Prop
  /-- One of the values. -/
  | columnIn : ListTest "column_in" .inList
  /-- None of the values. -/
  | columnNotIn : ListTest "column_not_in" .notInList
  /-- Between the two values. -/
  | between : ListTest "between" .between
  /-- Not between the two values. -/
  | notBetween : ListTest "not_between" .notBetween

/-- The field that gives a condition its mode. -/
def modeField (mode : String) : SourceField := (.ok "mode", .string mode)

/-- Whether a field is none by which the two spellings of a test differ. -/
def Common (f : SourceField) : Prop :=
  f.1 ≠ .ok "mode" ∧ f.1 ≠ .ok "operator" ∧ f.1 ≠ .ok "value"

/-- Whether the second list of fields is the first with a field put in. -/
def Inserted (f : SourceField) (fields more : List SourceField) : Prop :=
  ∃ before after, fields = before ++ after ∧ more = before ++ f :: after

/-- Whether fields are the given ones with an operator put in, and perhaps a value, at which no list
test looks. -/
inductive Operated (o : Operator) (fields : List SourceField) : List SourceField → Prop
  /-- An operator only. -/
  | operator {word : String} (hword : Operator.read word = .ok o) {more : List SourceField}
    (h : Inserted (.ok "operator", .string word) fields more) : Operated o fields more
  /-- An operator and a value. -/
  | value {word : String} (hword : Operator.read word = .ok o) {more most : List SourceField}
    (h : Inserted (.ok "operator", .string word) fields more) {s : Source} {v : Json}
    (hread : s.read = .ok v) (hvalue : Inserted (.ok "value", s) more most) :
    Operated o fields most

/-- Whether two documents are one condition in two spellings. -/
inductive Respelled : Source → Source → Prop
  /-- An object with a text for its values, and one with the pieces. -/
  | text (before : List SourceField) (text : String) (after : List SourceField)
    (breach : Option Breach) :
    Respelled (.object (before ++ (.ok "values", .string text) :: after) breach)
      (.object (before ++ (.ok "values", listed text) :: after) breach)
  /-- The same in an array, for a mode of a list test. -/
  | modeItem {mode : String} {o : Operator} (hmode : ListTest mode o) (column : Source)
    (text : String) (after : List Source) (breach : Option Breach) :
    Respelled (.array (.string mode :: column :: .string text :: after) breach)
      (.array (.string mode :: column :: listed text :: after) breach)
  /-- The same in an array, for a test by an operator. -/
  | operatorItem (column operator value : Source) (text : String) (after : List Source)
    (breach : Option Breach) :
    Respelled
      (.array (.string "column" :: column :: operator :: value :: .string text :: after) breach)
      (.array (.string "column" :: column :: operator :: value :: listed text :: after) breach)
  /-- An object with the mode of a list test, and one with its operator. -/
  | mode {mode : String} {o : Operator} (hmode : ListTest mode o)
    {fields left operated right : List SourceField} (hcommon : ∀ f ∈ fields, Common f)
    (hleft : Inserted (modeField mode) fields left) (hoperated : Operated o fields operated)
    (hright : Inserted (modeField "column") operated right) (breach : Option Breach) :
    Respelled (.object left breach) (.object right breach)
  /-- An array with the mode of a list test, and one with its operator and a value. -/
  | modeItems {mode : String} {o : Operator} (hmode : ListTest mode o) {word : String}
    (hword : Operator.read word = .ok o) {value : Source} {v : Json} (hread : value.read = .ok v)
    (column values : Source) (breach : Option Breach) :
    Respelled (.array [.string mode, column, values] breach)
      (.array [.string "column", column, .string word, value, values] breach)

/-- What a document of a condition compiles to: what is wrong with the document, or what the
condition compiles to. -/
def Scope.conditionFrom (s : Scope) (document : Source) :
    Except ReadFault (Except ClauseFault Fragment) :=
  (readCondition document).map s.condition

/-! ### Values -/

namespace Json

/-- A text without the blanks around it; any other value as it is. -/
def trimmed : Json → Json
  | .string s => .string (trim s)
  | v => v

end Json

/-- A cast does not look at the blanks around a text. -/
theorem castValue_trimmed (c : Column) (v : Json) : castValue c v.trimmed = castValue c v := by
  cases v with
  | string s =>
    have hunwrap : unwrap (.string (trim s)) = unwrap (.string s) := by
      rw [unwrap, unwrap, toList_trim, trimChars_trimChars]
    simp only [Json.trimmed, castValue, hunwrap]
  | _ => simp only [Json.trimmed]

/-- The values of a text with commas are its pieces without the blanks around them. -/
theorem commaValues_eq (text : String) :
    commaValues text = ((pieces text).map Json.string).map Json.trimmed := by
  unfold commaValues pieces
  split
  · rfl
  · simp only [List.map_map]
    refine List.map_congr_left fun piece _ => ?_
    simp [Json.trimmed, trim]

/-- Whether two lists of values differ at most in the blanks around texts. -/
def ValuesAlike (vs ws : List Json) : Prop := vs.map Json.trimmed = ws.map Json.trimmed

theorem valuesAlike_commaValues (text : String) :
    ValuesAlike (commaValues text) ((pieces text).map .string) := by
  have hagain : Json.trimmed ∘ Json.trimmed = Json.trimmed := by
    funext v
    cases v with
    | string s => rw [Function.comp_apply, Json.trimmed, Json.trimmed, trim_trim]
    | _ => rfl
  rw [ValuesAlike, commaValues_eq, List.map_map, hagain]

namespace ValuesAlike

variable {vs ws : List Json}

theorem isEmpty_eq (h : ValuesAlike vs ws) : vs.isEmpty = ws.isEmpty := by
  simpa using congrArg List.isEmpty h

theorem length_eq (h : ValuesAlike vs ws) : vs.length = ws.length := by
  simpa using congrArg List.length h

theorem castAll_eq (h : ValuesAlike vs ws) (c : Column) :
    Scope.castAll c vs = Scope.castAll c ws := by
  have htrimmed : ∀ us : List Json,
      (us.map Json.trimmed).mapM (castValue c) = us.mapM (castValue c) := by
    intro us
    rw [List.mapM_map]
    exact congrArg (us.mapM ·) (funext fun v => castValue_trimmed c v)
  rw [Scope.castAll, ← htrimmed, h, htrimmed, Scope.castAll]

theorem test_eq (h : ValuesAlike vs ws) (s : Scope) (c : Column) (operator : Operator)
    (value : Json) : s.test c operator value vs = s.test c operator value ws := by
  have hmembership : ∀ negated, s.membership c vs negated = s.membership c ws negated := by
    intro negated
    rw [Scope.membership, h.isEmpty_eq, h.castAll_eq c, ← Scope.membership]
  have hrange : ∀ negated, s.range c vs negated = s.range c ws negated := by
    intro negated
    rw [Scope.range, h.length_eq, h.castAll_eq c, ← Scope.range]
  cases operator with
  | inList | notInList => exact hmembership _
  | between | notBetween => exact hrange _
  | _ => rfl

end ValuesAlike

/-! ### Conditions -/

/-- Whether two conditions compile to one answer in every scope. -/
def Condition.Same (c d : Condition) : Prop := ∀ s : Scope, s.condition c = s.condition d

theorem same_test (name : String) (operator : Operator) (value : Json) {vs ws : List Json}
    (h : ValuesAlike vs ws) :
    Condition.Same (.test name operator value vs) (.test name operator value ws) := by
  intro s
  have hactive : s.activeCondition (.test name operator value vs) =
      s.activeCondition (.test name operator value ws) :=
    congrArg (s.column "" name >>= ·) (funext fun c => h.test_eq s c operator value)
  rw [Scope.condition, hactive]
  rfl

/-- The modes of a condition. -/
def conditionKinds : List (String × ConditionKind) :=
  [("column", .test), ("column_in", .membership false), ("column_not_in", .membership true),
    ("between", .range false), ("not_between", .range true), ("exists", .subquery false),
    ("not_exists", .subquery true), ("expression", .expression)]

theorem readCondition_eq :
    readCondition = readTagged "WhereCondition" conditionKinds conditionReader := rfl

/-- The mode of a list test has a reader for a column and values, and what it makes of them is the
test by the operator. -/
theorem ListTest.exists_reader {mode : String} {o : Operator} (h : ListTest mode o) :
    ∃ kind make, conditionKinds.lookup mode = some kind ∧ conditionReader kind = listReader make ∧
      ∀ name value vs, Condition.Same (make name vs) (.test name o value vs) := by
  cases h with
  | columnIn => exact ⟨.membership false, _, rfl, rfl, fun name value vs s => rfl⟩
  | columnNotIn => exact ⟨.membership true, _, rfl, rfl, fun name value vs s => rfl⟩
  | between => exact ⟨.range false, _, rfl, rfl, fun name value vs s => rfl⟩
  | notBetween => exact ⟨.range true, _, rfl, rfl, fun name value vs s => rfl⟩

/-- What the reader of a list test makes of values that differ in blanks only is one test. -/
theorem same_make {o : Operator} {make : String → List Json → Condition}
    (h : ∀ name value vs, Condition.Same (make name vs) (.test name o value vs)) (name : String)
    {vs ws : List Json} (hvalues : ValuesAlike vs ws) :
    Condition.Same (make name vs) (make name ws) := by
  intro s
  rw [h name .null vs s, h name .null ws s]
  exact same_test name o .null hvalues s

/-! ### A text in place of an array -/

/-- Whether two sources are one, or a text with commas and the array of its pieces. -/
def Retold (s s' : Source) : Prop := s = s' ∨ ∃ text, s = .string text ∧ s' = listed text

theorem read_listed (text : String) :
    (listed text).read = .ok (.array ((pieces text).map .string)) := by
  refine Source.read_ofJson (.array fun v hv => ?_)
  obtain ⟨piece, -, rfl⟩ := List.mem_map.1 hv
  exact .string piece

theorem skipFault?_listed (text : String) : (listed text).skipFault? = none := by
  have hitems : ∀ ps : List String,
      Source.skipItems? (Source.ofItems (ps.map Json.string)) = none := by
    intro ps
    induction ps with
    | nil => rfl
    | cons p ps ih => exact ih
  rw [listed, Source.ofJson, Source.skipFault?, hitems]
  rfl

namespace Retold

variable {s s' : Source}

theorem agree_value (h : Retold s s') : Agree False False (fun _ _ => True) s.value s'.value := by
  obtain rfl | ⟨text, rfl, rfl⟩ := h
  · cases s.value with
    | error fault => exact .fault fault
    | ok v => exact True.intro
  · rw [Source.value, Source.value, read_listed]
    exact True.intro

theorem agree_readValues (h : Retold s s') :
    Agree False False ValuesAlike (readValues s) (readValues s') := by
  obtain rfl | ⟨text, rfl, rfl⟩ := h
  · cases readValues s with
    | error fault => exact .fault fault
    | ok vs => exact rfl
  · rw [readValues, readValues, Source.value, Source.value, read_listed]
    exact valuesAlike_commaValues text

theorem agree_skip {σ τ : Type} {S : σ → τ → Prop} (h : Retold s s') {a : σ} {b : τ}
    (hab : S a b) : Agree False False S (skip s a) (skip s' b) := by
  obtain rfl | ⟨text, rfl, rfl⟩ := h
  · exact BoundQuery.agree_skip s hab
  · rw [skip, skip, skipFault?_listed]
    exact hab

theorem forall₂_insert (before : List Source) (h : Retold s s') (after : List Source) :
    List.Forall₂ Retold (before ++ s :: after) (before ++ s' :: after) := by
  have hsame : ∀ items : List Source, List.Forall₂ Retold items items :=
    fun items => List.forall₂_same.2 fun s _ => .inl rfl
  exact List.rel_append (hsame before) (.cons h (hsame after))

end Retold

/-! ### Objects with a text for the values -/

/-- Whether two fields are one, or values in two spellings. -/
def Told (f g : SourceField) : Prop :=
  f = g ∨ f.1 = .ok "values" ∧ g.1 = .ok "values" ∧ Retold f.2 g.2

namespace Told

theorem waiting {f g : SourceField} (h : Told f g) : Waiting f g := by
  obtain rfl | ⟨hf, hg, hfg⟩ := h
  · exact .inl rfl
  · obtain ⟨name, s⟩ := f
    obtain ⟨name', s'⟩ := g
    obtain rfl : name = .ok "values" := hf
    obtain rfl : name' = .ok "values" := hg
    obtain rfl | ⟨text, rfl, rfl⟩ : Retold s s' := hfg
    · exact .inl rfl
    · exact .inr ⟨"values", _, _, _, _, by decide, rfl, rfl, rfl, read_listed text⟩

variable {name : String} {s s' : Source}

theorem retold (h : Told (.ok name, s) (.ok name, s')) : Retold s s' := by
  obtain heq | ⟨-, -, h⟩ := h
  · exact .inl (congrArg Prod.snd heq)
  · exact h

/-- Fields that are told alike are one, except for the values. -/
theorem source_eq (h : Told (.ok name, s) (.ok name, s')) (hname : name ≠ "values") : s = s' := by
  obtain heq | ⟨hvalues, -, -⟩ := h
  · exact congrArg Prod.snd heq
  · exact absurd (Except.ok.inj hvalues) hname

end Told

/-- Whether the slots of two readers are filled alike, but for the blanks around values of a
list. -/
structure ConditionSlots.Alike (a b : ConditionSlots) : Prop where
  /-- The columns. -/
  column : a.column = b.column
  /-- The operators. -/
  operator : a.operator = b.operator
  /-- The values. -/
  value : a.value = b.value
  /-- The values of a list. -/
  values : Option.Rel ValuesAlike a.values b.values
  /-- The subqueries or expressions. -/
  sql : a.sql = b.sql

namespace ConditionSlots.Alike

variable {a b : ConditionSlots}

theorem empty : Alike {} {} := ⟨rfl, rfl, rfl, .none, rfl⟩

theorem isSome_values (h : Alike a b) : a.values.isSome = b.values.isSome := by
  have hvalues := h.values
  generalize a.values = vs, b.values = ws at hvalues
  cases hvalues <;> rfl

theorem getD_values (h : Alike a b) : ValuesAlike (a.values.getD []) (b.values.getD []) := by
  have hvalues := h.values
  generalize a.values = vs, b.values = ws at hvalues
  cases hvalues with
  | none => rfl
  | some hvalues => exact hvalues

theorem fill_column (h : Alike a b) (s : Source) :
    Agree False False Alike (fill a.column "column" s.text fun c => { a with column := some c })
      (fill b.column "column" s.text fun c => { b with column := some c }) :=
  agree_fill_same h.column "column" s.text fun _ => { h with column := rfl }

theorem fill_values (h : Alike a b) {s s' : Source} (hs : Retold s s') :
    Agree False False Alike
      (fill a.values "values" (readValues s) fun vs => { a with values := some vs })
      (fill b.values "values" (readValues s') fun vs => { b with values := some vs }) :=
  agree_fill h.isSome_values "values" hs.agree_readValues fun _ _ hvs =>
    { h with values := .some hvs }

end ConditionSlots.Alike

open ConditionSlots

theorem agree_visit_list (make : String → List Json → Condition) {a b : ConditionSlots}
    {name : String} {s s' : Source} (h : Alike a b) (htold : Told (.ok name, s) (.ok name, s')) :
    Agree False False Alike ((listReader make).visit a name s)
      ((listReader make).visit b name s') := by
  simp only [listReader]
  split
  · obtain rfl := htold.source_eq (by decide)
    exact h.fill_column s
  · obtain rfl := htold.source_eq (by decide)
    exact h.fill_column s
  · exact h.fill_values htold.retold
  next hvalues =>
    obtain rfl := htold.source_eq hvalues
    exact agree_skip s h

theorem agree_visit_test {a b : ConditionSlots} {name : String} {s s' : Source} (h : Alike a b)
    (htold : Told (.ok name, s) (.ok name, s')) :
    Agree False False Alike ((conditionReader .test).visit a name s)
      ((conditionReader .test).visit b name s') := by
  simp only [conditionReader]
  split
  · obtain rfl := htold.source_eq (by decide)
    exact h.fill_column s
  · obtain rfl := htold.source_eq (by decide)
    exact h.fill_column s
  · obtain rfl := htold.source_eq (by decide)
    exact agree_fill_same h.operator "operator" _ fun _ => { h with operator := rfl }
  · obtain rfl := htold.source_eq (by decide)
    exact agree_fill_same h.value "value" _ fun _ => { h with value := rfl }
  · exact h.fill_values htold.retold
  next hvalues =>
    obtain rfl := htold.source_eq hvalues
    exact agree_skip s h

theorem agree_visit_sql (other : String) (hother : other ≠ "values")
    (make : String → Condition) {a b : ConditionSlots} {name : String} {s s' : Source}
    (h : Alike a b) (htold : Told (.ok name, s) (.ok name, s')) :
    Agree False False Alike ((sqlReader other make).visit a name s)
      ((sqlReader other make).visit b name s') := by
  simp only [sqlReader]
  split
  next hname =>
    have hvalues : name ≠ "values" := by
      rintro rfl
      exact hname.elim (by decide) hother.symm
    obtain rfl := htold.source_eq hvalues
    exact agree_fill_same h.sql "sql" _ fun _ => { h with sql := rfl }
  next => exact htold.retold.agree_skip h

theorem agree_ofFields_list {o : Operator} {make : String → List Json → Condition}
    (hmake : ∀ name value vs, Condition.Same (make name vs) (.test name o value vs))
    {fs gs : List SourceField} (h : List.Forall₂ Told fs gs) :
    Agree False False Condition.Same ((listReader make).ofFields fs none)
      ((listReader make).ofFields gs none) := by
  refine RecordReader.agree_ofFields Alike (fun h => h.waiting.name_eq) (agree_visit_list make)
    .empty (fun a b hab => ?_) h
  refine (agree_required hab.column "column").bind ?_
  rintro name _ rfl
  exact same_make hmake name hab.getD_values

theorem agree_ofFields_sql {other : String} (hother : other ≠ "values")
    (make : String → Condition) {fs gs : List SourceField} (h : List.Forall₂ Told fs gs) :
    Agree False False Condition.Same ((sqlReader other make).ofFields fs none)
      ((sqlReader other make).ofFields gs none) := by
  refine RecordReader.agree_ofFields Alike (fun h => h.waiting.name_eq)
    (agree_visit_sql other hother make) .empty (fun a b hab => ?_) h
  refine (agree_required hab.sql "sql").bind ?_
  rintro sql _ rfl s
  rfl

/-- Fields that are told alike make one condition, whatever its mode. -/
theorem agree_ofFields_told (kind : ConditionKind) {fs gs : List SourceField}
    (h : List.Forall₂ Told fs gs) :
    Agree False False Condition.Same ((conditionReader kind).ofFields fs none)
      ((conditionReader kind).ofFields gs none) := by
  cases kind with
  | test =>
    refine RecordReader.agree_ofFields Alike (fun h => h.waiting.name_eq) agree_visit_test .empty
      (fun a b hab => ?_) h
    refine (agree_required hab.column "column").bind ?_
    rintro name _ rfl
    refine (agree_required hab.operator "operator").bind ?_
    rintro operator _ rfl
    rw [hab.value]
    exact same_test name operator _ hab.getD_values
  | membership negated =>
    exact agree_ofFields_list (o := if negated then .notInList else .inList)
      (fun name value vs s => by cases negated <;> rfl) h
  | range negated =>
    exact agree_ofFields_list (o := if negated then .notBetween else .between)
      (fun name value vs s => by cases negated <;> rfl) h
  | subquery negated => exact agree_ofFields_sql (by decide) _ h
  | expression => exact agree_ofFields_sql (by decide) _ h

/-- An object may tell its values in another way. -/
theorem conditionFrom_told (scope : Scope) {s s' : Source} (h : Retold s s')
    (before after : List SourceField) (breach : Option Breach) :
    scope.conditionFrom (.object (before ++ (.ok "values", s) :: after) breach) =
      scope.conditionFrom (.object (before ++ (.ok "values", s') :: after) breach) := by
  have hsame : ∀ fields : List SourceField, List.Forall₂ Told fields fields :=
    fun fields => List.forall₂_same.2 fun f _ => .inl rfl
  have hfields : List.Forall₂ Told (before ++ (.ok "values", s) :: after)
      (before ++ (.ok "values", s') :: after) :=
    List.rel_append (hsame before) (.cons (.inr ⟨rfl, rfl, h⟩) (hsame after))
  exact (agree_readTagged Told.waiting "WhereCondition" conditionKinds agree_ofFields_told hfields
    breach).map_eq fun c d hcd => hcd scope

/-! ### Arrays -/

theorem listReader_ofItems (make : String → List Json → Condition) (title : String)
    (column values : Source) (after : List Source) :
    (listReader make).ofItems title (column :: values :: after) =
      column.text >>= fun name => (readValues values).map (make name) := by
  simp only [RecordReader.ofItems, listReader, List.map_cons, List.map_nil, List.zip_cons_cons,
    List.zip_nil_left, visitFields, fill, Option.isSome_none, Bool.false_eq_true, if_false]
  cases column.text with
  | error fault => rfl
  | ok name => cases readValues values <;> rfl

theorem test_ofItems (title : String) (column operator value values : Source)
    (after : List Source) :
    (conditionReader .test).ofItems title (column :: operator :: value :: values :: after) =
      column.text >>= fun name => operator.word Operator.read >>= fun o =>
        value.value >>= fun v => (readValues values).map (Condition.test name o v) := by
  simp only [RecordReader.ofItems, conditionReader, List.map_cons, List.map_nil,
    List.zip_cons_cons, List.zip_nil_left, visitFields, fill, Option.isSome_none,
    Bool.false_eq_true, if_false]
  cases column.text with
  | error fault => rfl
  | ok name =>
    cases operator.word Operator.read with
    | error fault => rfl
    | ok o =>
      cases value.value with
      | error fault => rfl
      | ok v => cases readValues values <;> rfl

/-- An array may tell one of its items in another way, if the reader of its kind takes both for
one. -/
theorem conditionFrom_items (scope : Scope) {mode : String} {kind : ConditionKind}
    (hkind : conditionKinds.lookup mode = some kind) {s s' : Source} (h : Retold s s')
    (before after : List Source) (breach : Option Breach)
    (hitems : ∀ title, Agree False False Condition.Same
      ((conditionReader kind).ofItems title (before ++ s :: after))
      ((conditionReader kind).ofItems title (before ++ s' :: after))) :
    scope.conditionFrom (.array (.string mode :: (before ++ s :: after)) breach) =
      scope.conditionFrom (.array (.string mode :: (before ++ s' :: after)) breach) := by
  rw [Scope.conditionFrom, Scope.conditionFrom, readCondition_eq, readTagged_array _ _ hkind,
    readTagged_array _ _ hkind]
  have hread : Agree False False (List.Forall₂ fun _ _ => True)
      ((before ++ s :: after).mapM Source.value) ((before ++ s' :: after).mapM Source.value) :=
    Agree.mapM (h.forall₂_insert before after) fun _ _ => Retold.agree_value
  refine Agree.map_eq (R := Condition.Same) ?_ fun c d hcd => hcd scope
  refine hread.bind fun _ _ _ => (Agree.refl _).bind fun _ _ _ => ?_
  rw [readTaggedItems_eq, readTaggedItems_eq]
  refine (hitems _).bind fun c d hcd => ?_
  simp only [List.length_append, List.length_cons]
  split
  · exact .fault _
  · exact hcd

theorem conditionFrom_modeItem (scope : Scope) {mode : String} {o : Operator}
    (hmode : ListTest mode o) {s s' : Source} (h : Retold s s') (column : Source)
    (after : List Source) (breach : Option Breach) :
    scope.conditionFrom (.array (.string mode :: column :: s :: after) breach) =
      scope.conditionFrom (.array (.string mode :: column :: s' :: after) breach) := by
  obtain ⟨kind, make, hkind, hreader, hmake⟩ := hmode.exists_reader
  refine conditionFrom_items scope hkind h [column] after breach fun title => ?_
  rw [hreader, List.singleton_append, List.singleton_append, listReader_ofItems,
    listReader_ofItems]
  refine (Agree.refl column.text).bind ?_
  rintro name _ rfl
  exact h.agree_readValues.map fun vs ws h => same_make hmake name h

theorem conditionFrom_operatorItem (scope : Scope) {s s' : Source} (h : Retold s s')
    (column operator value : Source) (after : List Source) (breach : Option Breach) :
    scope.conditionFrom
        (.array (.string "column" :: column :: operator :: value :: s :: after) breach) =
      scope.conditionFrom
        (.array (.string "column" :: column :: operator :: value :: s' :: after) breach) := by
  have htest : conditionKinds.lookup "column" = some .test := rfl
  refine conditionFrom_items scope htest h [column, operator, value] after breach fun title => ?_
  simp only [List.cons_append, List.nil_append, test_ofItems]
  refine (Agree.refl column.text).bind ?_
  rintro name _ rfl
  refine (Agree.refl (operator.word Operator.read)).bind ?_
  rintro o _ rfl
  refine (Agree.refl value.value).bind ?_
  rintro v _ rfl
  exact h.agree_readValues.map fun vs ws h => same_test name o v h

theorem value_of_read {s : Source} {v : Json} (h : s.read = .ok v) : s.value = .ok v := by
  rw [Source.value, h]
  rfl

theorem word_string {word : String} {o : Operator} (h : Operator.read word = .ok o) :
    (Source.string word).word Operator.read = .ok o := by
  simp only [Source.word, Source.text, h]
  rfl

/-- An array may give the mode of a list test, or its operator. -/
theorem conditionFrom_modeItems (scope : Scope) {mode : String} {o : Operator}
    (hmode : ListTest mode o) {operator value : Source} {w v : Json}
    (hread : operator.value = .ok w) (hword : operator.word Operator.read = .ok o)
    (hvalue : value.value = .ok v) (column values : Source) (breach : Option Breach) :
    scope.conditionFrom (.array [.string mode, column, values] breach) =
      scope.conditionFrom (.array [.string "column", column, operator, value, values] breach) := by
  obtain ⟨kind, make, hkind, hreader, hmake⟩ := hmode.exists_reader
  have htest : conditionKinds.lookup "column" = some .test := rfl
  have hitems : Agree False False (fun _ _ => True) ([column, values].mapM Source.value)
      ([column, operator, value, values].mapM Source.value) := by
    simp only [List.mapM_cons, List.mapM_nil, hread, hvalue]
    cases column.value with
    | error fault => exact .fault fault
    | ok a =>
      cases values.value with
      | error fault => exact .fault fault
      | ok b => exact True.intro
  rw [Scope.conditionFrom, Scope.conditionFrom, readCondition_eq, readTagged_array _ _ hkind,
    readTagged_array _ _ htest]
  refine Agree.map_eq (R := Condition.Same) ?_ fun c d hcd => hcd scope
  refine hitems.bind fun _ _ _ => (Agree.refl _).bind fun _ _ _ => ?_
  -- Both readers have taken all items then, so none is too many.
  have hleft : ¬ (listReader make).names.length < [column, values].length := Nat.lt_irrefl 2
  have hright : ¬ (conditionReader .test).names.length <
      [column, operator, value, values].length := Nat.lt_irrefl 4
  rw [readTaggedItems_eq, readTaggedItems_eq, hreader, listReader_ofItems, test_ofItems, hword,
    hvalue]
  simp only [if_neg hleft, if_neg hright]
  cases column.text with
  | error fault => exact .fault fault
  | ok name =>
    cases readValues values with
    | error fault => exact .fault fault
    | ok vs => exact hmake name v vs

/-! ### Objects with an operator -/

/-- Whether a reader of a list test and one of a test by an operator have the same column and values
in their slots, and what the second one has in its other slots. -/
structure ConditionSlots.Tests (operator : Option Operator) (value : Option Json)
    (a b : ConditionSlots) : Prop where
  /-- The columns. -/
  column : a.column = b.column
  /-- The values of a list. -/
  values : a.values = b.values
  /-- The operator. -/
  operator : b.operator = operator
  /-- The value. -/
  value : b.value = value

namespace ConditionSlots.Tests

variable {operator : Option Operator} {value : Option Json} {a b : ConditionSlots}

theorem fill_column (h : Tests operator value a b) (s : Source) :
    Agree False False (Tests operator value)
      (fill a.column "column" s.text fun c => { a with column := some c })
      (fill b.column "column" s.text fun c => { b with column := some c }) :=
  agree_fill_same h.column "column" s.text fun _ => { h with column := rfl }

theorem fill_values (h : Tests operator value a b) (s : Source) :
    Agree False False (Tests operator value)
      (fill a.values "values" (readValues s) fun vs => { a with values := some vs })
      (fill b.values "values" (readValues s) fun vs => { b with values := some vs }) :=
  agree_fill_same h.values "values" _ fun _ => { h with values := rfl }

theorem visit_common (make : String → List Json → Condition) {name : String} {s : Source}
    (h : Tests operator value a b) (hcommon : Common (.ok name, s)) :
    Agree False False (Tests operator value) ((listReader make).visit a name s)
      ((conditionReader .test).visit b name s) := by
  obtain ⟨-, hoperator, hvalue⟩ := hcommon
  simp only [listReader, conditionReader]
  split
  · exact h.fill_column s
  · exact h.fill_column s
  · exact h.fill_values s
  next hcolumn hfield hvalues =>
    split
    · exact (hcolumn rfl).elim
    · exact (hfield rfl).elim
    · exact (hoperator rfl).elim
    · exact (hvalue rfl).elim
    · exact (hvalues rfl).elim
    · exact agree_skip s h

theorem visit_operator {word : String} {o : Operator} (hword : Operator.read word = .ok o)
    (h : Tests none value a b) :
    ∃ b', (conditionReader .test).visit b "operator" (.string word) = .ok b' ∧
      Tests (some o) value a b' := by
  have hread := word_string hword
  refine ⟨{ b with operator := some o }, ?_, { h with operator := rfl }⟩
  simp only [conditionReader, h.operator, hread, fill_none]

/-- What the two readers make of their slots is one test. -/
theorem agree_finish {o : Operator} {make : String → List Json → Condition}
    (hmake : ∀ name value vs, Condition.Same (make name vs) (.test name o value vs))
    (h : Tests (some o) value a b) :
    Agree False False Condition.Same ((listReader make).finish a)
      ((conditionReader .test).finish b) := by
  simp only [listReader, conditionReader, h.values, h.operator]
  refine (agree_required h.column "column").bind ?_
  rintro name _ rfl
  exact hmake name _ _

end ConditionSlots.Tests

/-- Whether the slots of a test are filled alike, but for the value, which only the second one
has. -/
structure ConditionSlots.Valued (value : Option Json) (a b : ConditionSlots) : Prop where
  /-- The columns. -/
  column : a.column = b.column
  /-- The operators. -/
  operator : a.operator = b.operator
  /-- The values of a list. -/
  values : a.values = b.values
  /-- The value. -/
  value : b.value = value

namespace ConditionSlots.Valued

variable {value : Option Json} {a b : ConditionSlots}

theorem visit_other {name : String} {s : Source} (h : Valued value a b)
    (hname : (Except.ok name : Except SyntaxFault String) ≠ .ok "value") :
    Agree False False (Valued value) ((conditionReader .test).visit a name s)
      ((conditionReader .test).visit b name s) := by
  have hcolumn : Agree False False (Valued value)
      (fill a.column "column" s.text fun c => { a with column := some c })
      (fill b.column "column" s.text fun c => { b with column := some c }) :=
    agree_fill_same h.column "column" s.text fun _ => { h with column := rfl }
  simp only [conditionReader]
  split
  · exact hcolumn
  · exact hcolumn
  · exact agree_fill_same h.operator "operator" _ fun _ => { h with operator := rfl }
  · exact absurd rfl hname
  · exact agree_fill_same h.values "values" _ fun _ => { h with values := rfl }
  · exact agree_skip s h

theorem visit_value {s : Source} {v : Json} (hread : s.read = .ok v) (h : Valued none a b) :
    ∃ b', (conditionReader .test).visit b "value" s = .ok b' ∧ Valued (some v) a b' := by
  have hvalue := value_of_read hread
  refine ⟨{ b with value := some v }, ?_, { h with value := rfl }⟩
  simp only [conditionReader, h.value, hvalue, fill_none]

end ConditionSlots.Valued

section Inserted

variable {f : SourceField} {fields more : List SourceField}

theorem Inserted.forall_mem {P : SourceField → Prop} (h : Inserted f fields more) (hf : P f)
    (hfields : ∀ g ∈ fields, P g) : ∀ g ∈ more, P g := by
  obtain ⟨before, after, rfl, rfl⟩ := h
  rw [List.forall_mem_append, List.forall_mem_cons]
  rw [List.forall_mem_append] at hfields
  exact ⟨hfields.1, hf, hfields.2⟩

theorem Inserted.agree_readFields {name : String} {s : Source} {v : Json}
    (h : Inserted (.ok name, s) fields more) (hs : s.read = .ok v) :
    Agree False False (fun _ _ => True) (Source.readFields fields) (Source.readFields more) := by
  obtain ⟨before, after, rfl, rfl⟩ := h
  exact agree_readFields_inserted before hs

end Inserted

namespace Operated

variable {o : Operator} {fields operated : List SourceField}

theorem agree_readFields (h : Operated o fields operated) :
    Agree False False (fun _ _ => True) (Source.readFields fields) (Source.readFields operated) := by
  cases h with
  | operator _ h => exact h.agree_readFields rfl
  | value _ h hread hvalue =>
    exact ((h.agree_readFields rfl).trans (hvalue.agree_readFields hread)).imp fun _ _ _ => True.intro

theorem forall_ne_mode (h : Operated o fields operated) (hcommon : ∀ f ∈ fields, Common f) :
    ∀ f ∈ operated, f.1 ≠ .ok tagName := by
  have hfields : ∀ f ∈ fields, f.1 ≠ .ok tagName := fun f hf => (hcommon f hf).1
  cases h with
  | operator _ h => exact h.forall_mem (by simp [tagName]) hfields
  | value _ h _ hvalue =>
    exact hvalue.forall_mem (by simp [tagName]) (h.forall_mem (by simp [tagName]) hfields)

/-- The two readers go through the fields side by side. -/
theorem exists_agree_visitFields (h : Operated o fields operated)
    (hcommon : ∀ f ∈ fields, Common f) (make : String → List Json → Condition) :
    ∃ value, Agree False False (Tests (some o) value)
      (visitFields (listReader make).visit ({} : ConditionSlots) fields)
      (visitFields (conditionReader .test).visit ({} : ConditionSlots) operated) := by
  have hoperator : ∀ {word : String} {more : List SourceField}, Operator.read word = .ok o →
      Inserted (.ok "operator", .string word) fields more →
      Agree False False (Tests (some o) none)
        (visitFields (listReader make).visit ({} : ConditionSlots) fields)
        (visitFields (conditionReader .test).visit ({} : ConditionSlots) more) := by
    rintro word more hword ⟨before, after, rfl, rfl⟩
    exact agree_visitFields_inserted (Tests none none) (Tests (some o) none)
      (Tests.visit_common make) (Tests.visit_common make) (Tests.visit_operator hword) hcommon
      ⟨rfl, rfl, rfl, rfl⟩
  cases h with
  | operator hword h => exact ⟨none, hoperator hword h⟩
  | @value word hword more _ h s v hread hvalue =>
    have hother : ∀ f ∈ more, f.1 ≠ .ok "value" :=
      h.forall_mem (by simp) fun f hf => (hcommon f hf).2.2
    obtain ⟨before, after, rfl, rfl⟩ := hvalue
    have hvalued : Agree False False (Valued (some v))
        (visitFields (conditionReader .test).visit ({} : ConditionSlots) (before ++ after))
        (visitFields (conditionReader .test).visit ({} : ConditionSlots)
          (before ++ (.ok "value", s) :: after)) :=
      agree_visitFields_inserted (Valued none) (Valued (some v)) Valued.visit_other
        Valued.visit_other (Valued.visit_value hread) hother ⟨rfl, rfl, rfl, rfl⟩
    refine ⟨some v, ((hoperator hword h).trans hvalued).imp ?_⟩
    rintro a c ⟨b, hab, hbc⟩
    exact ⟨hab.column.trans hbc.column, hab.values.trans hbc.values,
      hbc.operator.symm.trans hab.operator, hbc.value⟩

end Operated

/-- An object may give the mode of a list test, or its operator. -/
theorem conditionFrom_mode (scope : Scope) {mode : String} {o : Operator} (hmode : ListTest mode o)
    {fields left operated right : List SourceField} (hcommon : ∀ f ∈ fields, Common f)
    (hleft : Inserted (modeField mode) fields left) (hoperated : Operated o fields operated)
    (hright : Inserted (modeField "column") operated right) (breach : Option Breach) :
    scope.conditionFrom (.object left breach) = scope.conditionFrom (.object right breach) := by
  obtain ⟨kind, make, hkind, hreader, hmake⟩ := hmode.exists_reader
  have htest : conditionKinds.lookup "column" = some .test := rfl
  have hread := hoperated.agree_readFields
  have htag := hoperated.forall_ne_mode hcommon
  obtain ⟨value, hslots⟩ := hoperated.exists_agree_visitFields hcommon make
  obtain ⟨before, after, rfl, rfl⟩ := hleft
  obtain ⟨before', after', rfl, rfl⟩ := hright
  rw [Scope.conditionFrom, Scope.conditionFrom, readCondition_eq, modeField, modeField,
    ← tagName, readTagged_inserted _ _ hkind before (fun f hf => (hcommon f hf).1),
    readTagged_inserted _ _ htest before' htag, hreader]
  refine Agree.map_eq (R := Condition.Same) ?_ fun c d hcd => hcd scope
  refine hread.mapError.bind fun _ _ _ => (Agree.refl _).bind fun _ _ _ => ?_
  rw [RecordReader.ofFields_none, RecordReader.ofFields_none]
  exact hslots.bind fun a b hab => hab.agree_finish hmake

/-! ### All spellings -/

/-- **All spellings of a condition compile to one fragment, or to one fault**, in every scope: it
makes no difference whether the values of a list are a text with commas or the array of its pieces,
nor whether a list test has a mode of its own or an operator. -/
theorem Scope.conditionFrom_respelled (s : Scope) {a b : Source} (h : Respelled a b) :
    s.conditionFrom a = s.conditionFrom b := by
  cases h with
  | text before text after breach =>
    exact conditionFrom_told s (.inr ⟨text, rfl, rfl⟩) before after breach
  | modeItem hmode column text after breach =>
    exact conditionFrom_modeItem s hmode (.inr ⟨text, rfl, rfl⟩) column after breach
  | operatorItem column operator value text after breach =>
    exact conditionFrom_operatorItem s (.inr ⟨text, rfl, rfl⟩) column operator value after breach
  | mode hmode hcommon hleft hoperated hright breach =>
    exact conditionFrom_mode s hmode hcommon hleft hoperated hright breach
  | modeItems hmode hword hread column values breach =>
    exact conditionFrom_modeItems s hmode rfl (word_string hword) (value_of_read hread) column
      values breach

/-- A test against two numbers, written as one text. -/
def commaDocument : Source :=
  .object [modeField "column_in", (.ok "column", .string "ID"), (.ok "values", .string "7, 8")] none

/-- The same test, with its numbers in an array. -/
def listDocument : Source :=
  .object [modeField "column_in", (.ok "column", .string "ID"),
    (.ok "values", .array [.string "7", .string " 8"] none)] none

/-- The same test by an operator, with a value that is not looked at. -/
def operatorDocument : Source :=
  .object [(.ok "column", .string "ID"), modeField "column", (.ok "operator", .string "in"),
    (.ok "value", .null), (.ok "values", .array [.string "7", .string " 8"] none)] none

/-- A table with a column of numbers. -/
def numberScope : Scope := ⟨.ofColumns [("ID", "INTEGER")], .db2⟩

theorem Scope.conditionFrom_respelled_numbers :
    numberScope.conditionFrom commaDocument = numberScope.conditionFrom listDocument ∧
      numberScope.conditionFrom listDocument = numberScope.conditionFrom operatorDocument ∧
      numberScope.conditionFrom listDocument =
        .ok (.ok ⟨"\"ID\" IN (?, ?)", [.int 7, .int 8]⟩) := by
  have hlisted : listed "7, 8" = .array [.string "7", .string " 8"] none := by
    have hpieces : pieces "7, 8" = ["7", " 8"] := by decide +kernel
    rw [listed, hpieces]
    rfl
  have htext : Respelled commaDocument listDocument := by
    rw [listDocument, ← hlisted]
    exact .text [modeField "column_in", (.ok "column", .string "ID")] "7, 8" [] none
  have hvalues : ∀ f ∈ [(.ok "column", .string "ID"),
      (.ok "values", .array [.string "7", .string " 8"] none)], Common f := by
    simp [Common]
  have hmode : Respelled listDocument operatorDocument :=
    .mode .columnIn hvalues ⟨[], _, rfl, rfl⟩
      (.value (by decide +kernel) ⟨[_], [_], rfl, rfl⟩ rfl ⟨[_, _], [_], rfl, rfl⟩)
      ⟨[_], [_, _, _], rfl, rfl⟩ none
  have hread : readCondition listDocument =
      .ok (.membership false "ID" [.string "7", .string " 8"]) := rfl
  have hcondition : numberScope.condition (.membership false "ID" [.string "7", .string " 8"]) =
      .ok ⟨"\"ID\" IN (?, ?)", [.int 7, .int 8]⟩ := toOption_eq_some_iff.1 (by decide +kernel)
  refine ⟨conditionFrom_respelled _ htext, conditionFrom_respelled _ hmode, ?_⟩
  rw [conditionFrom, hread, ← hcondition]
  rfl

end BoundQuery
