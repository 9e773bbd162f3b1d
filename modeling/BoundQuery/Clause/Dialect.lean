import BoundQuery.Query.Words

/-!
# What a dialect decides

* `Dialect.quote`: an identifier in quotes, a quote inside it written twice.
* `Dialect.decimalCast`: numbers of aggregates with two decimal places.
* `Dialect.rowCap`: the clause that limits the number of rows.
* `Dialect.placeholder`: the mark for the value with a number.
-/

namespace BoundQuery.Dialect

/-- The character around identifiers. -/
def quoteChar : Dialect → Char
  | .mysql => '\x60'
  | _ => '"'

/-- A text with every `q` written twice. -/
def doubled (q : Char) (cs : List Char) : List Char :=
  cs.flatMap fun c => if c = q then [q, q] else [c]

/-- An identifier in quotes. -/
def quote (d : Dialect) (name : String) : String :=
  String.ofList (d.quoteChar :: doubled d.quoteChar name.toList ++ [d.quoteChar])

/-- An expression cast to a decimal number with two places. -/
def decimalCast (d : Dialect) (expression : String) : String :=
  match d with
  | .db2 => "DECIMAL(" ++ expression ++ ", 18, 2)"
  | _ => "CAST(" ++ expression ++ " AS DECIMAL(18, 2))"

/-- The clause that limits the number of rows. -/
def rowCap (d : Dialect) (limit : Nat) : String :=
  match d with
  | .db2 => "FETCH FIRST " ++ toString limit ++ " ROWS ONLY"
  | _ => "LIMIT " ++ toString limit

/-- The mark for the value with a number, counted from 1. -/
def placeholder (d : Dialect) (index : Nat) : String :=
  match d with
  | .postgres => "$" ++ toString index
  | _ => "?"

end BoundQuery.Dialect
