import BoundQuery.Toml.Moment
import BoundQuery.Toml.Number
import BoundQuery.Toml.Table
import BoundQuery.Toml.Text

/-!
# Settings documents

* `value?`: a value: a text, a number, a truth value, a date or time, an array or a table.
* `Toml.parse?`: the data of a whole document, an object.
-/

namespace BoundQuery.Toml

/-- How many brackets may be open around and including a value. -/
def depthLimit : Nat := 79

/-- Takes a value that is neither an array nor a table. -/
def scalarValue? (cs : List Char) : Option (Source × List Char) :=
  match cs with
  | 't' :: 'r' :: 'u' :: 'e' :: rest => some (.bool true, rest)
  | 'f' :: 'a' :: 'l' :: 's' :: 'e' :: rest => some (.bool false, rest)
  | cs =>
    ((text? cs).map fun (s, rest) => (Source.string s, rest)).or
      ((moment? cs).or (number? cs))

/-- The rest of a text after blanks, comments and line breaks, at most `fuel` lines of them. -/
def skipLines : Nat → List Char → List Char
  | 0, cs => cs
  | fuel + 1, cs =>
    let cs := skipComment (skipBlanks cs)
    match lineBreak? cs with
    | some rest => skipLines fuel rest
    | none => cs

/-- Takes blanks, comments and line breaks. -/
def skipSpace (cs : List Char) : List Char := skipLines cs.length cs

mutual

/-- Takes a value, with at most `depth` brackets open. -/
def valueWith? : Nat → Nat → List Char → Option (Source × List Char)
  | 0, _, _ => none
  | fuel + 1, depth, cs =>
    match depth, cs with
    | 0, '[' :: _ => none
    | 0, '\x7b' :: _ => none
    | depth + 1, '[' :: rest =>
      (items? fuel depth rest).map fun (items, rest) => (.array items none, rest)
    | depth + 1, '\x7b' :: rest => inlineTable? fuel depth rest
    | _, cs => scalarValue? cs

/-- Takes the items of an array and its closing bracket. A comma may follow the last item. -/
def items? : Nat → Nat → List Char → Option (List Source × List Char)
  | 0, _, _ => none
  | fuel + 1, depth, cs =>
    match skipSpace cs with
    | ']' :: rest => some ([], rest)
    | cs =>
      match valueWith? fuel depth cs with
      | none => none
      | some (v, rest) =>
        match skipSpace rest with
        | ']' :: rest => some ([v], rest)
        | ',' :: rest => (items? fuel depth rest).map fun (vs, rest) => (v :: vs, rest)
        | _ => none

/-- Takes the entries of a table within one line and its closing brace. -/
def inlineTable? : Nat → Nat → List Char → Option (Source × List Char)
  | 0, _, _ => none
  | fuel + 1, depth, cs =>
    match skipBlanks cs with
    | '\x7d' :: rest => some (.object [] none, rest)
    | cs =>
      (inlineEntries? fuel depth [] cs).map fun (entries, rest) =>
        (.object (entriesSource entries) none, rest)

/-- Takes one or more entries with commas between them and the closing brace. -/
def inlineEntries? : Nat → Nat → Entries → List Char → Option (Entries × List Char)
  | 0, _, _, _ => none
  | fuel + 1, depth, entries, cs =>
    match path? cs with
    | some (path, '=' :: rest) =>
      match valueWith? fuel depth (skipBlanks rest) with
      | none => none
      | some (v, rest) =>
        match addValue? path v .header entries, skipBlanks rest with
        | some entries, '\x7d' :: rest => some (entries, rest)
        | some entries, ',' :: rest => inlineEntries? fuel depth entries rest
        | _, _ => none
    | _ => none

end

/-- Takes a value. Every second step at least takes a character, which bounds the steps. -/
def value? (cs : List Char) : Option (Source × List Char) :=
  valueWith? (2 * cs.length + 2) depthLimit cs

/-- A document that has been read in part. -/
structure Draft where
  /-- The entries so far. -/
  root : Entries
  /-- The path of the table that was opened last. -/
  header : List String

/-- Takes a header after its opening bracket, and changes the draft. -/
def headerLine? (d : Draft) (cs : List Char) : Option (Draft × List Char) :=
  match cs with
  | '[' :: rest =>
    match path? rest with
    | some (path, ']' :: ']' :: rest) =>
      (openListed? path d.root).map fun root => (⟨root, path⟩, rest)
    | _ => none
  | cs =>
    match path? cs with
    | some (path, ']' :: rest) => (openTable? path d.root).map fun root => (⟨root, path⟩, rest)
    | _ => none

/-- Takes a key and its value, and changes the draft. -/
def entryLine? (d : Draft) (cs : List Char) : Option (Draft × List Char) :=
  match path? cs with
  | some (path, '=' :: rest) =>
    match value? (skipBlanks rest) with
    | some (v, rest) =>
      (addWithin? d.header path v d.root).map fun root => (⟨root, d.header⟩, rest)
    | none => none
  | _ => none

/-- Takes what stands on a line before its end. -/
def line? (d : Draft) (cs : List Char) : Option (Draft × List Char) :=
  match skipBlanks cs with
  | [] => some (d, [])
  | '#' :: rest => some (d, '#' :: rest)
  | '\n' :: rest => some (d, '\n' :: rest)
  | '\r' :: rest => some (d, '\r' :: rest)
  | '[' :: rest => headerLine? d rest
  | cs => entryLine? d cs

/-- Takes the lines up to the end of the text, at most `fuel` of them. -/
def lines? : Nat → Draft → List Char → Option Draft
  | 0, _, _ => none
  | fuel + 1, d, cs =>
    match line? d cs with
    | none => none
    | some (d, rest) =>
      match lineEnd? rest with
      | none => none
      | some [] => some d
      | some rest => lines? fuel d rest

/-- The characters of a text without a byte order mark. -/
def withoutMark : List Char → List Char
  | '\ufeff' :: rest => rest
  | cs => cs

/-- The data of a whole document. -/
def parse? (s : String) : Option Source :=
  let cs := withoutMark s.toList
  (lines? (cs.length + 1) ⟨[], []⟩ cs).map fun d => .object (entriesSource d.root) none

end BoundQuery.Toml
