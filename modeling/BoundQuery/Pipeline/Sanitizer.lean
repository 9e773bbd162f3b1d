import BoundQuery.Clause.Dialect
import BoundQuery.Template.Token
import BoundQuery.Text.Blank
import BoundQuery.Text.Case

/-!
# Checks before a statement is executed

* `isRead`: whether a statement reads: its first word is `SELECT`, `WITH` or `VALUES`.
* `isCapped`: whether a statement limits the number of its rows itself, outside of parentheses.
* `Dialect.sanitize`: strips semicolons at the end, rejects what must not run, and limits the
  number of rows of a read that does not do so itself.
-/

namespace BoundQuery

open Text

/-- Why a statement must not run. -/
inductive Rejection where
  /-- There is nothing to run. -/
  | emptyStatement
  /-- Only reads may run, and this is none. -/
  | notRead
deriving DecidableEq

/-- The text of the rejection. -/
def Rejection.message : Rejection → String
  | .emptyStatement => "Statement rejected: empty statement"
  | .notRead => "Statement rejected: Only SELECT is allowed."

/-- The word in upper case that a token of ordinary text is, if it starts with a letter. -/
def Token.word? : Token → Option String
  | .text (c :: rest) => if isAlphabetic c then some (upper (String.ofList (c :: rest))) else none
  | _ => none

/-- The words outside of quotes and comments. -/
def codeWords (sql : String) : List String := (tokens sql.toList).filterMap Token.word?

/-- The words of tokens outside of parentheses, where `depth` of them are open. A parenthesis that
closes none does not count. -/
def wordsAtTop (depth : Nat) : List Token → List String
  | [] => []
  | t :: rest =>
    if t = .text ['('] then wordsAtTop (depth + 1) rest
    else if t = .text [')'] then wordsAtTop (depth - 1) rest
    else if depth = 0 then t.word?.toList ++ wordsAtTop depth rest
    else wordsAtTop depth rest

/-- The words outside of quotes, comments and parentheses. -/
def topWords (sql : String) : List String := wordsAtTop 0 (tokens sql.toList)

/-- The words that start a read. -/
def readWords : List String := ["SELECT", "WITH", "VALUES"]

/-- The words that limit the number of rows. -/
def capWords : List String := ["LIMIT", "FETCH"]

/-- Whether a statement reads. -/
def isRead (sql : String) : Bool :=
  match codeWords sql with
  | [] => false
  | word :: _ => readWords.contains word

/-- Whether a statement limits the number of its rows itself. -/
def isCapped (sql : String) : Bool := (topWords sql).any capWords.contains

/-- A statement without blanks around it and without the semicolons at its end. -/
def stripped (sql : String) : String :=
  String.ofList
    (trimEndChars ((trimChars sql.toList).reverse.dropWhile (· = ';')).reverse)

/-- The statement as it is to be executed. A `rowLimit` of 0 means no limit. -/
def Dialect.sanitize (d : Dialect) (sql : String) (rowLimit : UInt64) (selectOnly : Bool) :
    Except Rejection String :=
  let sql := stripped sql
  if sql.isEmpty then .error .emptyStatement
  else if selectOnly && !isRead sql then .error .notRead
  else if isRead sql && 0 < rowLimit && !isCapped sql then
    .ok (sql ++ " " ++ d.rowCap rowLimit.toNat)
  else .ok sql

end BoundQuery
