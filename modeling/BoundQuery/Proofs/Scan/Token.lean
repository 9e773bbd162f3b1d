import BoundQuery.Proofs.Scan.Region
import Mathlib.Data.List.TakeWhile

/-!
# Tokens and their sources

* `quotedRegion_append`, `blockComment_append`, `singleList?_eq_some`, … : every reader splits its
  text in two;
* `Token.source_next` : a token and the text after it are the text that it was taken from;
* `flatMap_source_tokens` : **a text is the sources of its tokens one after the other.**
-/

namespace BoundQuery

open Text

namespace Token

/-! ### Nothing is lost -/

theorem quotedRegion_append (q : Char) (cs : List Char) :
    (quotedRegion q cs).1 ++ (quotedRegion q cs).2 = cs := by
  fun_induction quotedRegion q cs with
  | case1 => rfl
  | case2 => rfl
  | case3 => rfl
  | case4 d rest region after h hc ih =>
    rw [h] at ih
    simpa using ih
  | case5 c d rest hc hb region after h ih =>
    rw [h] at ih
    simpa using ih

theorem blockComment_append (cs : List Char) :
    (blockComment cs).1 ++ (blockComment cs).2 = cs := by
  fun_induction blockComment cs with
  | case1 => rfl
  | case2 => rfl
  | case3 c d rest hc => rfl
  | case4 c d rest hc region after h ih =>
    rw [h] at ih
    simpa using ih

theorem afterBlanks?_eq_some {c : Char} {cs part rest : List Char}
    (h : afterBlanks? c cs = some (part, rest)) :
    part ++ rest = cs ∧ part = cs.takeWhile isListBlank ++ [c] := by
  unfold afterBlanks? at h
  split at h
  · rename_i d r hd
    split at h
    · rename_i hdc
      simp only [Option.some.injEq, Prod.mk.injEq] at h
      obtain ⟨rfl, rfl⟩ := h
      subst hdc
      refine ⟨?_, rfl⟩
      rw [List.append_assoc, List.singleton_append, ← hd, List.takeWhile_append_dropWhile]
    · cases h
  · cases h

/-- The parts of a `?` in parentheses. -/
theorem singleList?_eq_some {cs list rest : List Char}
    (h : singleList? cs = some (list, rest)) :
    list ++ rest = cs ∧ ∃ as bs ds : List Char,
      (∀ c ∈ as ++ bs ++ ds, isListBlank c = true) ∧
        list = as ++ ['('] ++ (bs ++ ['?']) ++ (ds ++ [')']) := by
  unfold singleList? at h
  split at h
  · cases h
  rename_i opening cs₁ h₁
  split at h
  · cases h
  rename_i mark cs₂ h₂
  split at h
  · cases h
  rename_i closing cs₃ h₃
  simp only [Option.some.injEq, Prod.mk.injEq] at h
  obtain ⟨rfl, rfl⟩ := h
  obtain ⟨e₁, p₁⟩ := afterBlanks?_eq_some h₁
  obtain ⟨e₂, p₂⟩ := afterBlanks?_eq_some h₂
  obtain ⟨e₃, p₃⟩ := afterBlanks?_eq_some h₃
  refine ⟨by rw [← e₁, ← e₂, ← e₃]; simp only [List.append_assoc], _, _, _, ?_,
    by rw [p₁, p₂, p₃]⟩
  intro c hc
  simp only [List.mem_append] at hc
  rcases hc with (hc | hc) | hc <;> exact List.mem_takeWhile_imp hc

theorem plain_append (c : Char) (rest : List Char) :
    (plain c rest).1.source ++ (plain c rest).2 = c :: rest := by
  unfold plain
  split
  · simp [source, List.takeWhile_append_dropWhile]
  · rfl

/-- A token and the text after it are the text that it was taken from. -/
theorem source_next (c : Char) (rest : List Char) :
    (next c rest).1.source ++ (next c rest).2 = c :: rest := by
  unfold next
  split
  · simp [source, quotedRegion_append]
  split
  · rename_i hc
    simp [source, hc]
  split
  · exact plain_append c []
  rename_i d more
  split
  · simp [source, List.takeWhile_append_dropWhile]
  split
  · simp [source, blockComment_append]
  split
  · rfl
  split
  · rename_i hc
    simp [source, hc.1, List.takeWhile_append_dropWhile]
  split
  · rfl
  split
  · split
    · rename_i list after hl
      simp [source, (singleList?_eq_some hl).1]
    · exact plain_append c (d :: more)
  · exact plain_append c (d :: more)

/-- A token starts with the character that it was taken at. -/
theorem source_next_eq (c : Char) (rest : List Char) :
    ∃ tail, (next c rest).1.source = c :: tail := by
  have h := source_next c rest
  have hl := next_rest_length c rest
  cases hs : (next c rest).1.source with
  | nil =>
    rw [hs, List.nil_append] at h
    rw [h, List.length_cons] at hl
    omega
  | cons d tail =>
    rw [hs] at h
    exact ⟨tail, by rw [(List.cons.inj h).1]⟩

end Token

/-- The sources of the tokens of a text are the text. -/
theorem flatMap_source_tokens (cs : List Char) : (tokens cs).flatMap Token.source = cs := by
  fun_induction tokens cs with
  | case1 => rfl
  | case2 c rest ih => rw [List.flatMap_cons, ih, Token.source_next]

/-- Every token of a text is the first one of some text. -/
theorem exists_next_of_mem_tokens {cs : List Char} {t : Token} (h : t ∈ tokens cs) :
    ∃ c rest, t = (Token.next c rest).1 := by
  fun_induction tokens cs with
  | case1 => cases h
  | case2 c rest ih =>
    rcases List.mem_cons.1 h with rfl | h
    · exact ⟨c, rest, rfl⟩
    · exact ih h

end BoundQuery
