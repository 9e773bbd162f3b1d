import BoundQuery.Text.Letter

/-!
# Texts and keys of a settings document

* `text?`: a text in quotes of one of the four kinds.
* `path?`: a key, or several with points between them.
* `lineEnd?`: what may stand between a statement and the end of its line.
-/

namespace BoundQuery.Toml

open Text

/-! ### Lines -/

/-- A blank within a line. -/
def isBlank (c : Char) : Bool := c = ' ' || c = '\t'

/-- The rest of a text after blanks. -/
def skipBlanks (cs : List Char) : List Char := cs.dropWhile isBlank

/-- A character that stands for itself: a tab or any character that is no control character of
ASCII. -/
def isPlain (c : Char) : Bool := c = '\t' || (32 ≤ c.toNat && c.toNat ≠ 127)

/-- Takes a line break. -/
def lineBreak? : List Char → Option (List Char)
  | '\n' :: rest => some rest
  | '\r' :: '\n' :: rest => some rest
  | _ => none

/-- The rest of a text after a comment, if one starts here. -/
def skipComment : List Char → List Char
  | '#' :: rest => rest.dropWhile isPlain
  | cs => cs

/-- Takes blanks, perhaps a comment, and the end of the line or of the text. -/
def lineEnd? (cs : List Char) : Option (List Char) :=
  match skipComment (skipBlanks cs) with
  | [] => some []
  | cs => lineBreak? cs

/-! ### Texts -/

/-- A kind of quoted text. -/
structure Quotation where
  /-- The quote, which stands three times around a text of several lines. -/
  quote : Char
  /-- Whether a backslash starts an escape. -/
  escapes : Bool
  /-- Whether the text may have several lines. -/
  multiline : Bool

/-- The number that hexadecimal digits write. -/
def hexNumber? (ds : List Char) : Option Nat :=
  ds.foldlM (fun n d => (hexValue? d).map (n * 16 + ·)) 0

/-- The character with a number. -/
def scalar? (n : Nat) : Option Char :=
  if n.isValidChar then some (Char.ofNat n) else none

/-- The character written by `width` hexadecimal digits. -/
def hexChar? (width : Nat) (cs : List Char) : Option Char :=
  if (cs.take width).length = width then (hexNumber? (cs.take width)).bind scalar? else none

/-- What an escape stands for, and how many characters it has after the backslash. -/
def escape? : List Char → Option (Char × Nat)
  | 'b' :: _ => some ('\x08', 1)
  | 't' :: _ => some ('\t', 1)
  | 'n' :: _ => some ('\n', 1)
  | 'f' :: _ => some ('\x0c', 1)
  | 'r' :: _ => some ('\r', 1)
  | '"' :: _ => some ('"', 1)
  | '\\' :: _ => some ('\\', 1)
  | 'u' :: rest => (hexChar? 4 rest).map fun c => (c, 5)
  | 'U' :: rest => (hexChar? 8 rest).map fun c => (c, 9)
  | _ => none

/-- The text up to its closing quotes, and what follows them. The next `skip` characters belong to
an escape that has been taken, and with `trim` blanks and line breaks are dropped up to the next
other character. Up to two quotes before the three that close a text of several lines belong to
the text. -/
def textBody (q : Quotation) : Nat → Bool → List Char → Option (List Char × List Char)
  | _, _, [] => none
  | skip + 1, trim, _ :: rest => textBody q skip trim rest
  | 0, trim, c :: rest =>
    if c = q.quote then
      let run := ((c :: rest).takeWhile (· = q.quote)).length
      if !q.multiline then some ([], rest)
      else if 3 ≤ run then
        some (List.replicate (min run 5 - 3) c, (c :: rest).drop (min run 5))
      else (textBody q 0 false rest).map fun (cs, after) => (c :: cs, after)
    else if trim && (isBlank c || c = '\n') then textBody q 0 true rest
    else if q.escapes && c = '\\' then
      if q.multiline && (lineBreak? (skipBlanks rest)).isSome then textBody q 0 true rest
      else
        match escape? rest with
        | some (d, length) =>
          (textBody q length false rest).map fun (cs, after) => (d :: cs, after)
        | none => none
    else if q.multiline && c = '\r' then
      if rest.head? = some '\n' then textBody q 0 trim rest else none
    else if isPlain c || (q.multiline && c = '\n') then
      (textBody q 0 false rest).map fun (cs, after) => (c :: cs, after)
    else none

/-- Takes the body of a text; a line break right after three opening quotes does not count. -/
def quotedText? (q : Quotation) (cs : List Char) : Option (String × List Char) :=
  let cs := if q.multiline then (lineBreak? cs).getD cs else cs
  (textBody q 0 false cs).map fun (text, rest) => (String.ofList text, rest)

/-- Takes a text of one line. -/
def lineText? : List Char → Option (String × List Char)
  | '"' :: rest => quotedText? ⟨'"', true, false⟩ rest
  | '\x27' :: rest => quotedText? ⟨'\x27', false, false⟩ rest
  | _ => none

/-- Takes a text in quotes. -/
def text? : List Char → Option (String × List Char)
  | '"' :: '"' :: '"' :: rest => quotedText? ⟨'"', true, true⟩ rest
  | '\x27' :: '\x27' :: '\x27' :: rest => quotedText? ⟨'\x27', false, true⟩ rest
  | cs => lineText? cs

/-! ### Keys -/

/-- A character of a key without quotes. -/
def isKeyChar (c : Char) : Bool := c.isAlphanum || c = '_' || c = '-'

/-- Takes one key. -/
def key? (cs : List Char) : Option (String × List Char) :=
  let bare := cs.takeWhile isKeyChar
  if bare.isEmpty then lineText? cs
  else some (String.ofList bare, cs.dropWhile isKeyChar)

/-- Takes keys with points and blanks between them, at most `fuel` of them. -/
def keys? : Nat → List Char → Option (List String × List Char)
  | 0, _ => none
  | fuel + 1, cs =>
    match key? (skipBlanks cs) with
    | none => none
    | some (name, rest) =>
      match skipBlanks rest with
      | '.' :: rest => (keys? fuel rest).map fun (names, rest) => (name :: names, rest)
      | rest => some ([name], rest)

/-- How many keys a path may have. -/
def pathLimit : Nat := 79

/-- Takes the path that a key or several keys are. -/
def path? (cs : List Char) : Option (List String × List Char) := keys? pathLimit cs

end BoundQuery.Toml
