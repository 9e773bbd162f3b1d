import BoundQuery.Clause.Dialect
import BoundQuery.Template.Token

/-!
# Numbered placeholders

Some stores want `$1`, `$2` and so on in the place of `?`.

* `positionalTokens`: the texts of tokens with the placeholders numbered from a start.
* `Dialect.positional`: a statement as the stores of a dialect want it.
-/

namespace BoundQuery

/-- A text with the first `?` replaced. -/
def replaceMark (mark : List Char) : List Char → List Char
  | [] => []
  | c :: rest => if c = '?' then mark ++ rest else c :: replaceMark mark rest

/-- The texts of tokens, where the placeholders are numbered after `index`. -/
def positionalTokens (d : Dialect) (index : Nat) : List Token → List Char
  | [] => []
  | t :: rest =>
    if t.isPlaceholder then
      replaceMark (d.placeholder (index + 1)).toList t.source ++
        positionalTokens d (index + 1) rest
    else t.source ++ positionalTokens d index rest

/-- A statement with the placeholders of the dialect. -/
def Dialect.positional (d : Dialect) (sql : String) : String :=
  match d with
  | .postgres => String.ofList (positionalTokens d 0 (tokens sql.toList))
  | _ => sql

end BoundQuery
