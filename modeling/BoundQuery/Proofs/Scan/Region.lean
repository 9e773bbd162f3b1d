import BoundQuery.Template.Token

/-!
# Reading SQL text from left to right

A `Region` is all that a reader of SQL text has to remember of the characters so far: whether it
is in code, behind a backslash, in quotes or in a comment.  A `?` is a placeholder when it is read
in code.

* `Region.next` : one character, and `Region.after` : a whole text;
* `Region.marks` : for each character of a text whether it is a placeholder, and `Region.count` :
  how many are;
* `Region.after_append`, `Region.marks_append` : a text that is put together from pieces is read
  piece by piece, each piece in the region that the pieces before it lead to;
* `Region.after_calm`, `Region.marks_calm` : a text of *calm* characters, which open no region, is
  code from its first to its last character wherever code can stand.
-/

namespace BoundQuery

/-- Where a reader of SQL text stands. -/
inductive Region where
  /-- In code. -/
  | code
  /-- In code, right after a `-` that may open a comment. -/
  | dash
  /-- In code, right after a `/` that may open a comment. -/
  | slash
  /-- Right after a backslash in code. -/
  | escape
  /-- Between two of these quotes. -/
  | quoted (quote : Char)
  /-- Right after a backslash between two of these quotes. -/
  | quotedEscape (quote : Char)
  /-- In a comment that ends with the line. -/
  | line
  /-- In a comment that is closed. -/
  | block
  /-- In a comment that is closed, right after a `*` of its text. -/
  | blockStar
deriving DecidableEq

namespace Region

/-- The region after a character of code. -/
def ofCode (c : Char) : Region :=
  if c = '\x27' ∨ c = '"' then .quoted c
  else if c = '\\' then .escape
  else if c = '-' then .dash
  else if c = '/' then .slash
  else .code

/-- The region after one more character. -/
def next : Region → Char → Region
  | .code, c => ofCode c
  | .dash, c => if c = '-' then .line else ofCode c
  | .slash, c => if c = '*' then .block else ofCode c
  | .escape, _ => .code
  | .quoted q, c => if c = q then .code else if c = '\\' then .quotedEscape q else .quoted q
  | .quotedEscape q, _ => .quoted q
  | .line, c => if c = '\n' then .code else .line
  | .block, c => if c = '*' then .blockStar else .block
  | .blockStar, c => if c = '/' then .code else if c = '*' then .blockStar else .block

/-- Whether a character that is read in the region is code. -/
def isCode : Region → Bool
  | .code | .dash | .slash => true
  | _ => false

/-- The region after a text. -/
def after (r : Region) (cs : List Char) : Region := cs.foldl next r

/-- For each character of a text, whether it is a placeholder. -/
def marks : Region → List Char → List Bool
  | _, [] => []
  | r, c :: cs => (r.isCode && c == '?') :: marks (r.next c) cs

/-- The number of placeholders of a text. -/
def count (r : Region) (cs : List Char) : Nat := (r.marks cs).count true

/-! ### Reading piece by piece -/

@[simp] theorem after_nil (r : Region) : r.after [] = r := rfl

@[simp] theorem after_cons (r : Region) (c : Char) (cs : List Char) :
    r.after (c :: cs) = (r.next c).after cs := rfl

@[simp] theorem after_append (r : Region) (as bs : List Char) :
    r.after (as ++ bs) = (r.after as).after bs := List.foldl_append

@[simp] theorem marks_nil (r : Region) : r.marks [] = [] := rfl

theorem marks_cons (r : Region) (c : Char) (cs : List Char) :
    r.marks (c :: cs) = (r.isCode && c == '?') :: (r.next c).marks cs := rfl

theorem marks_append (r : Region) (as bs : List Char) :
    r.marks (as ++ bs) = r.marks as ++ (r.after as).marks bs := by
  induction as generalizing r with
  | nil => rfl
  | cons a as ih => simp only [List.cons_append, marks_cons, after_cons, ih]

@[simp] theorem length_marks (r : Region) (cs : List Char) : (r.marks cs).length = cs.length := by
  induction cs generalizing r with
  | nil => rfl
  | cons c cs ih => simp only [marks_cons, List.length_cons, ih]

@[simp] theorem count_nil (r : Region) : r.count [] = 0 := rfl

theorem count_append (r : Region) (as bs : List Char) :
    r.count (as ++ bs) = r.count as + (r.after as).count bs := by
  simp only [count, marks_append, List.count_append]

/-- Every placeholder is a `?`. -/
theorem count_le (r : Region) (cs : List Char) : r.count cs ≤ cs.count '?' := by
  induction cs generalizing r with
  | nil => simp
  | cons c cs ih =>
    have h := ih (r.next c)
    unfold count at h ⊢
    rw [marks_cons, List.count_cons, List.count_cons]
    by_cases hc : c = '?'
    · subst hc
      cases r.isCode <;> simp <;> omega
    · simpa [hc] using h

theorem getElem?_of_marks {r : Region} {cs : List Char} {i : Nat}
    (h : (r.marks cs)[i]? = some true) : cs[i]? = some '?' := by
  induction cs generalizing r i with
  | nil => cases h
  | cons c cs ih =>
    rw [marks_cons] at h
    cases i with
    | zero =>
      simp only [List.getElem?_cons_zero, Option.some.injEq, Bool.and_eq_true, beq_iff_eq] at h
      rw [List.getElem?_cons_zero, h.2]
    | succ i => exact ih h

theorem count_eq_zero {cs : List Char} (r : Region) (h : '?' ∉ cs) : r.count cs = 0 := by
  have := r.count_le cs
  rw [List.count_eq_zero_of_not_mem h] at this
  exact Nat.le_zero.1 this

/-! ### Calm characters -/

/-- Whether a character neither opens a region nor helps to open one. -/
def isCalm (c : Char) : Bool :=
  c != '\x27' && c != '"' && c != '\\' && c != '-' && c != '/' && c != '*'

theorem next_calm {r : Region} {c : Char} (hr : r.isCode = true) (hc : isCalm c = true) :
    r.next c = .code := by
  simp only [isCalm, Bool.and_eq_true, bne_iff_ne] at hc
  obtain ⟨⟨⟨⟨⟨h₁, h₂⟩, h₃⟩, h₄⟩, h₅⟩, h₆⟩ := hc
  cases r <;> simp_all [isCode, next, ofCode]

theorem after_calm {r : Region} {cs : List Char} (hr : r.isCode = true) (hne : cs ≠ [])
    (hc : ∀ c ∈ cs, isCalm c = true) : r.after cs = .code := by
  induction cs generalizing r with
  | nil => exact absurd rfl hne
  | cons c cs ih =>
    rw [after_cons, next_calm hr (hc c List.mem_cons_self)]
    by_cases h : cs = []
    · rw [h, after_nil]
    · exact ih rfl h fun d hd => hc d (List.mem_cons_of_mem _ hd)

theorem marks_calm {r : Region} {cs : List Char} (hr : r.isCode = true)
    (hc : ∀ c ∈ cs, isCalm c = true) : r.marks cs = cs.map (· == '?') := by
  induction cs generalizing r with
  | nil => rfl
  | cons c cs ih =>
    rw [marks_cons, next_calm hr (hc c List.mem_cons_self), hr, Bool.true_and, List.map_cons,
      ih rfl fun d hd => hc d (List.mem_cons_of_mem _ hd)]

end Region

end BoundQuery
