import BoundQuery.Pipeline.Output
import Mathlib.Data.List.Induction

/-!
# Results by the place of their step

The results of the first steps of a run are kept twice: as outputs, in order, and in the context,
under a name that is made from the number of the step.  Numbers have one numeral each, so no two
steps share a name and the two copies hold the same.

* `outputName_inj` : steps have names of their own;
* `Context.ofResults` : the context in which the first steps have published the given results;
* `Context.get?_ofResults` : **it holds exactly these results**, each under the name of its step;
* `Context.lookup?_ofResults` : a path that starts with the name of a step leads into the result of
  that step, and nowhere if there is none;
* `aggregate_merge_outputs` : the merged outputs are the context as one object.
-/

namespace BoundQuery

open Text

/-! ### Names -/

theorem outputName_inj {i j : Nat} : outputName i = outputName j ↔ i = j := by
  constructor
  · intro h
    have hchars := congrArg String.toList h
    simp only [outputName, String.toList_append] at hchars
    -- The numerals are the same, so they write the same number.
    have hnumber := congrArg (fun ds => Nat.ofDigitChars 10 ds 0) (List.append_cancel_left hchars)
    simpa [Nat.toString_eq_ofList_toDigits] using hnumber
  · rintro rfl
    rfl

/-! ### Contexts -/

namespace Context

/-- The context in which the first steps have published these results. -/
def ofResults (rs : List Json) : Context :=
  ⟨Keyed.ofList (rs.mapIdx fun j v => (outputName j, v))⟩

theorem ofResults_concat (rs : List Json) (v : Json) :
    ofResults (rs ++ [v]) = (ofResults rs).insert (outputName rs.length) v := by
  rw [ofResults, List.mapIdx_concat, Keyed.ofList, Keyed.merge, List.foldl_append]
  rfl

theorem get?_insert (c : Context) (name other : String) (v : Json) :
    (c.insert name v).get? other = if other = name then some v else c.get? other :=
  Keyed.get?_insert name other v c.outputs

/-- **A context of results holds exactly them**, each under the name of its step. -/
theorem get?_ofResults {rs : List Json} {name : String} {v : Json} :
    (ofResults rs).get? name = some v ↔ ∃ j, name = outputName j ∧ rs[j]? = some v := by
  induction rs using List.reverseRecOn with
  | nil => exact iff_of_false (by rintro ⟨⟩) (by rintro ⟨j, -, ⟨⟩⟩)
  | append_singleton rs w ih =>
    rw [ofResults_concat, get?_insert]
    by_cases hname : name = outputName rs.length
    · rw [if_pos hname, Option.some.injEq]
      constructor
      · rintro rfl
        exact ⟨rs.length, hname, List.getElem?_concat_length⟩
      · rintro ⟨j, hj, hv⟩
        obtain rfl := outputName_inj.1 (hname.symm.trans hj)
        rw [List.getElem?_concat_length] at hv
        exact Option.some.inj hv
    · rw [if_neg hname, ih]
      refine exists_congr fun j => and_congr_right fun hj => ?_
      have hne : j ≠ rs.length := fun h => hname (h ▸ hj)
      rw [List.getElem?_append]
      split
      · rfl
      · rw [List.getElem?_eq_none (by omega), List.getElem?_eq_none (by simp; omega)]

theorem get?_ofResults_outputName (rs : List Json) (j : Nat) :
    (ofResults rs).get? (outputName j) = rs[j]? := by
  ext v
  rw [get?_ofResults]
  constructor
  · rintro ⟨i, hi, hv⟩
    exact outputName_inj.1 hi ▸ hv
  · exact fun hv => ⟨j, rfl, hv⟩

/-- A path that starts with the name of a step. -/
theorem lookup?_ofResults (rs : List Json) {path name : List Char} {rest : List (List Char)} {j : Nat}
    (hpath : (trimChars path).splitOn '.' = name :: rest)
    (hname : String.ofList (trimChars name) = outputName j) :
    (ofResults rs).lookup? path = rs[j]?.bind (follow? · rest) := by
  rw [lookup?, hpath]
  dsimp only
  rw [hname, get?_ofResults_outputName]
  cases rs[j]? <;> rfl

end Context

/-! ### Outputs -/

theorem outputFields_stepOutput (j : Nat) (v : Json) :
    outputFields (stepOutput j v) = [(outputName j, v)] := rfl

/-- The merged outputs are the context as one object. -/
theorem aggregate_merge_outputs (rs : List Json) :
    aggregate .merge (rs.mapIdx stepOutput) = [(Context.ofResults rs).snapshot] := by
  have hfields : (rs.mapIdx stepOutput).flatMap outputFields =
      rs.mapIdx fun j v => (outputName j, v) := by
    induction rs using List.reverseRecOn with
    | nil => rfl
    | append_singleton rs v ih =>
      rw [List.mapIdx_concat, List.mapIdx_concat, List.flatMap_append, ih, List.flatMap_singleton,
        outputFields_stepOutput]
  rw [aggregate, hfields]
  rfl

end BoundQuery
