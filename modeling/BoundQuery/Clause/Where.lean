import BoundQuery.Clause.Scope

/-!
# Conditions and WHERE clauses

* `Scope.condition`: one condition. A condition on the column `*`, or with the SQL text `*`, is
  suppressed: it compiles to nothing.
* `Scope.whereClause`: groups of conditions. A group without conditions left leaves no trace, and
  every group after the first that is left is attached with its own connector.
-/

namespace BoundQuery.Scope

open Text

/-- The column or SQL text that suppresses a condition. -/
def sentinel : String := "*"

/-- Whether a condition is suppressed. -/
def isSuppressed : Condition → Bool
  | .test name _ _ _ => name = sentinel
  | .membership _ name _ => name = sentinel
  | .range _ name _ => name = sentinel
  | .subquery _ sql => trim sql = sentinel
  | .expression sql => trim sql = sentinel

/-- A keyword, with `NOT` before it for the opposite. -/
def keyword (negated : Bool) (word : String) : String := if negated then "NOT " ++ word else word

/-- Casts values for a column. -/
def castAll (c : Column) (values : List Json) : Except ClauseFault (List BindValue) :=
  (values.mapM (castValue c)).mapError .value

/-- A test of a column against a list of values, at least one. -/
def membership (s : Scope) (c : Column) (values : List Json) (negated : Bool) :
    Except ClauseFault Fragment :=
  if values.isEmpty then .error (.valuesRequired (keyword negated "IN"))
  else
    (castAll c values).map fun bound =>
      ⟨s.quote c.name ++ " " ++ keyword negated "IN" ++ " (" ++
        ", ".intercalate (List.replicate bound.length "?") ++ ")", bound⟩

/-- A test of a column against two values. -/
def range (s : Scope) (c : Column) (values : List Json) (negated : Bool) :
    Except ClauseFault Fragment :=
  if values.length = 2 then
    (castAll c values).map fun bound =>
      ⟨s.quote c.name ++ " " ++ keyword negated "BETWEEN" ++ " ? AND ?", bound⟩
  else .error (.twoValuesRequired (keyword negated "BETWEEN") values.length)

/-- A comparison of a column with a value. -/
def comparison (s : Scope) (c : Column) (symbol : String) (value : Json) :
    Except ClauseFault Fragment :=
  match castValue c value with
  | .ok v => .ok ⟨s.quote c.name ++ " " ++ symbol ++ " ?", [v]⟩
  | .error fault => .error (.value fault)

/-- A test of a column of texts against a pattern. -/
def pattern (s : Scope) (c : Column) (negated : Bool) (text : String) :
    Except ClauseFault Fragment :=
  if c.isString then
    .ok ⟨s.quote c.name ++ " " ++ keyword negated "LIKE" ++ " ?", [.text text]⟩
  else .error (.notString c.name)

/-- A test of a column by an operator. -/
def test (s : Scope) (c : Column) (operator : Operator) (value : Json) (values : List Json) :
    Except ClauseFault Fragment :=
  match operator with
  | .equal => s.comparison c "=" value
  | .notEqual => s.comparison c "!=" value
  | .greater => s.comparison c ">" value
  | .less => s.comparison c "<" value
  | .greaterEqual => s.comparison c ">=" value
  | .lessEqual => s.comparison c "<=" value
  | .like => s.pattern c false value.text
  | .notLike => s.pattern c true value.text
  | .contains => s.pattern c false ("%" ++ value.text ++ "%")
  | .inList => s.membership c values false
  | .notInList => s.membership c values true
  | .between => s.range c values false
  | .notBetween => s.range c values true
  | .isNull => .ok (.text (s.quote c.name ++ " IS NULL"))
  | .isNotNull => .ok (.text (s.quote c.name ++ " IS NOT NULL"))

/-- A condition that is not suppressed. -/
def activeCondition (s : Scope) : Condition → Except ClauseFault Fragment
  | .test name operator value values => do s.test (← s.column "" name) operator value values
  | .membership negated name values => do s.membership (← s.column "" name) values negated
  | .range negated name values => do s.range (← s.column "" name) values negated
  | .subquery negated sql =>
    match nonBlank sql with
    | some sql => .ok (.text (keyword negated "EXISTS" ++ " (" ++ sql ++ ")"))
    | none => .error (.subqueryRequired (keyword negated "EXISTS"))
  | .expression sql =>
    match nonBlank sql with
    | some sql => .ok (.text ("(" ++ sql ++ ")"))
    | none => .error (.expressionRequired "WHERE")

/-- A condition; a suppressed one compiles to nothing. -/
def condition (s : Scope) (c : Condition) : Except ClauseFault Fragment :=
  if isSuppressed c then .ok .empty else s.activeCondition c

/-- The values of fragments one after the other. -/
def allValues (fragments : List Fragment) : List BindValue := fragments.flatMap Fragment.values

/-- The conditions of a group that are left, joined by the connector and in parentheses. -/
def groupBody (connector : Connector) (fragments : List Fragment) : Fragment :=
  ⟨"(" ++ (" " ++ connector.name ++ " ").intercalate (fragments.map Fragment.sql) ++ ")",
    allValues fragments⟩

/-- A group with its connector, unless no condition is left. -/
def group? (s : Scope) (g : Group) : Except ClauseFault (Option (Connector × Fragment)) :=
  (g.conditions.mapM s.condition).map fun fragments =>
    let left := fragments.filter (!·.isEmpty)
    if left.isEmpty then none else some (g.connector, groupBody g.connector left)

/-- Groups after the first, each with its connector before it. -/
def attached (groups : List (Connector × Fragment)) : List String :=
  groups.map fun (connector, f) => connector.name ++ " " ++ f.sql

/-- The clause of the groups that are left. -/
def joinGroups : List (Connector × Fragment) → Fragment
  | [] => .empty
  | (connector, f) :: rest =>
    ⟨"WHERE " ++ " ".intercalate (f.sql :: attached rest),
      allValues (((connector, f) :: rest).map Prod.snd)⟩

/-- A WHERE clause, or nothing. -/
def whereClause (s : Scope) (groups : List Group) : Except ClauseFault Fragment :=
  (groups.mapM s.group?).map fun compiled => joinGroups (compiled.filterMap id)

end BoundQuery.Scope
