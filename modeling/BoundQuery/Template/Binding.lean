import BoundQuery.Template.Parameter
import BoundQuery.Template.Token

/-!
# Binding a template

The arguments of a template are consumed once, in order: first by the distinct names, then by the
`IN` lists, then by the marks that stand alone. The bind values come out in the order of their
placeholders in the text.

* `Fragment`: SQL text with the values for its marks.
* `assignNames`, `takeLists`, `takeMarks`: the three ways in which arguments are consumed.
* `renderTokens`: one fragment per token.
* `bindTemplate`: the whole.

Binding ends early, with an empty statement, at an empty list for an `IN` list or at a `null` for
the rest: nothing could match then.
-/

namespace BoundQuery

/-- SQL text with the values for its marks, in order. -/
structure Fragment where
  /-- The text. -/
  sql : String
  /-- The values. -/
  values : List BindValue
deriving DecidableEq

namespace Fragment

/-- The fragment without text. -/
def empty : Fragment := ⟨"", []⟩

/-- A text without values. -/
def text (sql : String) : Fragment := ⟨sql, []⟩

/-- Whether the fragment has no text. -/
def isEmpty (f : Fragment) : Bool := f.sql.isEmpty

/-- Fragments one after the other. -/
def concat : List Fragment → Fragment
  | [] => empty
  | f :: rest => ⟨f.sql ++ (concat rest).sql, f.values ++ (concat rest).values⟩

end Fragment

/-- A template with its arguments in place. -/
structure BoundStatement where
  /-- The SQL text. -/
  sql : String
  /-- The values for its placeholders, in order. -/
  values : List BindValue
  /-- Whether the statement cannot match anything and need not be executed. -/
  empty : Bool
deriving DecidableEq

/-- The number of placeholders of the text. -/
def BoundStatement.placeholders (b : BoundStatement) : Nat := placeholderCount b.sql

/-- Why arguments do not fit a template. -/
inductive BindFault where
  /-- There are fewer arguments than names. -/
  | noParameter (name : String)
  /-- An `IN` list needs a list. -/
  | listRequired
  /-- There is no mark left for SQL text to replace. -/
  | noMarkForSql
  /-- A list has no place among marks that stand alone. -/
  | strayList
  /-- The text has another number of placeholders than there are values. -/
  | mismatch (expected provided : Nat) (sql : String)
deriving DecidableEq

/-- The text of the fault. -/
def BindFault.message : BindFault → String
  | .noParameter name => "No parameter left for :" ++ name
  | .listRequired => "IN (?) requires array parameter"
  | .noMarkForSql => "No ? placeholder left for sql parameter"
  | .strayList => "Array parameter requires IN (?) or a named placeholder"
  | .mismatch expected provided sql =>
    "SQL parameter mismatch\nExpected ?: " ++ toString expected ++ "\nProvided: " ++
      toString provided ++ "\nSQL: " ++ sql

/-! ### Consuming arguments -/

/-- The name of a named placeholder. -/
def Token.name? : Token → Option (List Char)
  | .named name => some name
  | _ => none

/-- Whether the token is an `IN` list. -/
def Token.isInList : Token → Bool
  | .inList _ => true
  | _ => false

/-- Whether the token is a mark that stands alone. -/
def Token.isBare : Token → Bool
  | .bare => true
  | _ => false

/-- The names of a template, each once, in the order in which they first occur. -/
def distinctNames (ts : List Token) : List (List Char) := (ts.filterMap Token.name?).eraseDups

/-- `n` marks with commas between them. -/
def marks (n : Nat) : String := ",".intercalate (List.replicate n "?")

/-- What takes the place of a named placeholder. -/
def Argument.named : Argument → Fragment
  | .scalar .null => .text "NULL"
  | .scalar v => ⟨"?", [v]⟩
  | .list [] => .text "(NULL)"
  | .list values => ⟨marks values.length, values⟩
  | .sql text => .text text

/-- Gives each name one argument; the rest of the arguments is left over. -/
def assignNames : List (List Char) → List Argument →
    Except BindFault (List (List Char × Fragment) × List Argument)
  | [], args => .ok ([], args)
  | name :: _, [] => .error (.noParameter (String.ofList name))
  | name :: names, arg :: args =>
    (assignNames names args).map fun (assigned, rest) => ((name, arg.named) :: assigned, rest)

/-- Gives each of a number of `IN` lists one argument. The fragments are those of the lists before
an empty one; without an empty one the rest of the arguments is left over. -/
def takeLists : Nat → List Argument → Except BindFault (List Fragment × Option (List Argument))
  | 0, args => .ok ([], some args)
  | _ + 1, .list [] :: _ => .ok ([], none)
  | n + 1, .list (v :: vs) :: args =>
    (takeLists n args).map fun (fragments, rest) =>
      (⟨"IN (" ++ marks (vs.length + 1) ++ ")", v :: vs⟩ :: fragments, rest)
  | _ + 1, _ => .error .listRequired

/-- Gives the marks that stand alone, a number of them, one argument each. The fragments are those
before a `null`; without a `null` the values beyond the last mark are left over. -/
def takeMarks : Nat → List Argument → Except BindFault (List Fragment × Option (List BindValue))
  | _, [] => .ok ([], some [])
  | _, .scalar .null :: _ => .ok ([], none)
  | n + 1, .scalar v :: args =>
    (takeMarks n args).map fun (fragments, surplus) => (⟨"?", [v]⟩ :: fragments, surplus)
  | 0, .scalar v :: args =>
    (takeMarks 0 args).map fun (fragments, surplus) => (fragments, surplus.map (v :: ·))
  | n + 1, .sql text :: args =>
    (takeMarks n args).map fun (fragments, surplus) => (.text text :: fragments, surplus)
  | 0, .sql _ :: _ => .error .noMarkForSql
  | _, .list _ :: _ => .error .strayList

/-! ### Rendering -/

/-- The text of a token as it was read. -/
def Token.fragment (t : Token) : Fragment := .text (String.ofList t.source)

/-- One fragment per token. The `IN` lists and the marks take theirs in order, and what has none
keeps its own text. -/
def renderTokens (names : List (List Char × Fragment)) :
    List Token → List Fragment → List Fragment → List Fragment
  | [], _, _ => []
  | .named name :: ts, lists, bare =>
    (names.lookup name).getD (Token.named name).fragment :: renderTokens names ts lists bare
  | .inList _ :: ts, f :: lists, bare => f :: renderTokens names ts lists bare
  | .bare :: ts, lists, f :: bare => f :: renderTokens names ts lists bare
  | t :: ts, lists, bare => t.fragment :: renderTokens names ts lists bare

/-- The statement of fragments, with the values that are left over at the end. -/
def statement (fragments : List Fragment) (surplus : List BindValue) (empty : Bool) :
    BoundStatement :=
  ⟨(Fragment.concat fragments).sql, (Fragment.concat fragments).values ++ surplus, empty⟩

/-- A statement that is to be executed must have one placeholder per value. -/
def checkCount (b : BoundStatement) : Except BindFault BoundStatement :=
  if b.placeholders = b.values.length then .ok b
  else .error (.mismatch b.placeholders b.values.length b.sql)

/-- Binds arguments to a template. -/
def bindTemplate (template : String) (args : List Argument) : Except BindFault BoundStatement :=
  let ts := tokens template.toList
  match assignNames (distinctNames ts) args with
  | .error fault => .error fault
  | .ok (names, args) =>
    match takeLists (ts.countP Token.isInList) args with
    | .error fault => .error fault
    | .ok (lists, none) => .ok (statement (renderTokens names ts lists []) [] true)
    | .ok (lists, some args) =>
      match takeMarks (ts.countP Token.isBare) args with
      | .error fault => .error fault
      | .ok (bare, none) => .ok (statement (renderTokens names ts lists bare) [] true)
      | .ok (bare, some surplus) =>
        checkCount (statement (renderTokens names ts lists bare) surplus false)

end BoundQuery
