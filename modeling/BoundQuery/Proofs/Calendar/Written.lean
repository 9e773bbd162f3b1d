import BoundQuery.Proofs.Binding.Filling
import BoundQuery.Proofs.Binding.Reference
import BoundQuery.Proofs.Calendar.Days
import BoundQuery.Proofs.Decimal.Digits
import BoundQuery.Proofs.Except
import BoundQuery.Proofs.Text.Trim
import Mathlib.Data.List.TakeWhile

/-!
# Timestamps and their written form

What is written for a timestamp is read again where a statement's values come from an earlier
preview or result.

* `Timestamp.Valid` : the timestamps there are; all that a text or a number of milliseconds stands
  for are valid (`valid_of_normalizeScalar`);
* `fixed?_padded`, `loose?_padded`, `year?_yearChars`, `fraction?_fractionChars` : each field of a
  written timestamp is read back, whatever follows it;
* `Valid.zoned?_chars` : the form with a zone does not take a written timestamp, as it has none;
* `ofText?_render` : **a written timestamp is read as the timestamp itself**;
* `argument_render` : so **every moment that a date parameter binds is bound again by its written
  form.**
-/

namespace BoundQuery

open Text

namespace Timestamp

/-! ### The timestamps there are -/

/-- Whether the parts of a timestamp are in range. -/
structure Valid (t : Timestamp) : Prop where
  /-- There is such a day. -/
  date : Calendar.isDate t.year t.month t.day = true
  /-- There is such an hour. -/
  hour : t.hour < 24
  /-- There is such a minute. -/
  minute : t.minute < 60
  /-- There is such a second, or it is a leap second. -/
  second : t.second ≤ 60
  /-- The nanosecond lies within the second. -/
  nano : t.nano < 1000000000

theorem ofParts?_eq_some_iff {year : Int} {month day hour minute second nano : Nat}
    {t : Timestamp} :
    ofParts? year month day hour minute second nano = some t ↔
      t = ⟨year, month, day, hour, minute, second, nano⟩ ∧ t.Valid := by
  unfold ofParts?
  constructor
  · intro h
    split at h
    next hparts =>
      obtain rfl := Option.some.inj h
      exact ⟨rfl, hparts.1, hparts.2.1, hparts.2.2.1, hparts.2.2.2.1, hparts.2.2.2.2⟩
    next => cases h
  · rintro ⟨rfl, h⟩
    rw [if_pos ⟨h.date, h.hour, h.minute, h.second, h.nano⟩]

theorem valid_of_ofParts? {year : Int} {month day hour minute second nano : Nat} {t : Timestamp}
    (h : ofParts? year month day hour minute second nano = some t) : t.Valid :=
  (ofParts?_eq_some_iff.1 h).2

/-- A moment so many milliseconds after the start of 1970 is in range if it is there. -/
theorem valid_of_ofMillis? {millis : Int} {t : Timestamp} (h : ofMillis? millis = some t) :
    t.Valid := by
  unfold ofMillis? at h
  split at h
  next hrange =>
    obtain ⟨hfirst, hlast⟩ := hrange
    unfold firstMillis at hfirst
    unfold lastMillis at hlast
    obtain rfl := Option.some.inj h
    have hday : -96465292 ≤ millis / 86400000 ∧ millis / 86400000 ≤ 95026236 := by omega
    have hdate := Calendar.isDate_dateOfDay hday.1 hday.2
    have hrest : (millis % 86400000).toNat < 86400000 := by omega
    exact {
      date := hdate
      hour := by dsimp only; omega
      minute := Nat.mod_lt _ (by decide)
      second := Nat.le_of_lt (Nat.mod_lt _ (by decide))
      nano := by dsimp only; omega }
  next => cases h

/-- What holds of all answers of a second reader holds of those of two readers in a row. -/
theorem of_bind {α β : Type} {P : β → Prop} {x : Option α} {f : α → Option β}
    (h : ∀ a b, f a = some b → P b) : ∀ b, (x >>= f) = some b → P b := by
  intro b hb
  obtain ⟨a, -, ha⟩ := Option.bind_eq_some_iff.1 hb
  exact h a b ha

theorem valid_of_looseTime? (date : Int × Nat × Nat) (cs : List Char) :
    ∀ t, looseTime? date cs = some t → t.Valid := by
  unfold looseTime?
  repeat' first
    | refine of_bind fun _ => ?_
    | split
  · exact fun _ => valid_of_ofParts?
  · nofun

theorem valid_of_addMinutes? {t u : Timestamp} {minutes : Int}
    (h : t.addMinutes? minutes = some u) : u.Valid := valid_of_ofParts? h

theorem valid_of_zoned? (cs : List Char) : ∀ t, zoned? cs = some t → t.Valid := by
  unfold zoned?
  repeat' first
    | refine of_bind fun _ => ?_
    | split
  all_goals first | exact fun _ => valid_of_addMinutes? | nofun

theorem valid_of_spaced? (cs : List Char) : ∀ t, spaced? cs = some t → t.Valid :=
  of_bind fun (date, rest) => valid_of_looseTime? date rest

theorem valid_of_joined? (cs : List Char) : ∀ t, joined? cs = some t → t.Valid :=
  of_bind fun (date, _) => of_bind fun rest => valid_of_looseTime? date rest

theorem valid_of_dateOnly? (cs : List Char) : ∀ t, dateOnly? cs = some t → t.Valid := by
  refine of_bind fun _ => ?_
  split
  split
  · exact fun _ => valid_of_ofParts?
  · nofun

/-- What a text stands for is in range, in each of the four forms. -/
theorem valid_of_ofText? {s : String} {t : Timestamp} (h : ofText? s = some t) : t.Valid := by
  simp only [ofText?, Option.or_eq_some_iff] at h
  rcases h with h | ⟨-, h | ⟨-, h | ⟨-, h⟩⟩⟩
  · exact valid_of_zoned? _ t h
  · exact valid_of_spaced? _ t h
  · exact valid_of_joined? _ t h
  · exact valid_of_dateOnly? _ t h

/-! ### Fields -/

/-- A number of at least `width` digits is one with zeros in front. -/
theorem padded_eq (width n : Nat) :
    padded width n = decimal (width - (Nat.toDigits 10 n).length) n := rfl

theorem length_padded {width n : Nat} (hwidth : 0 < width) (h : n < 10 ^ width) :
    (padded width n).length = width := by
  have hlength := (Nat.length_toDigits_le_iff (by decide) hwidth).2 h
  rw [padded_eq, decimal, List.length_append, List.length_replicate, Nat.sub_add_cancel hlength]

theorem isDigit_of_mem_padded {width n : Nat} {c : Char} (h : c ∈ padded width n) :
    c.isDigit = true := isDigit_of_mem_decimal h

section

variable {width n : Nat} (hwidth : 0 < width) (h : n < 10 ^ width) (cs : List Char)

include hwidth h

theorem take_padded : (padded width n ++ cs).take width = padded width n :=
  List.take_left' (length_padded hwidth h)

theorem drop_padded : (padded width n ++ cs).drop width = cs :=
  List.drop_left' (length_padded hwidth h)

/-- A field of its full width is read back. -/
theorem fixed?_padded : fixed? width (padded width n ++ cs) = some (n, cs) := by
  have hall : (padded width n).all Char.isDigit = true :=
    List.all_eq_true.2 fun c hc => isDigit_of_mem_padded hc
  simp only [fixed?, take_padded hwidth h, drop_padded hwidth h, length_padded hwidth h, hall,
    and_self, if_true]
  rw [padded_eq, natOfDigits_decimal]

/-- A field of at most so many digits is read back. -/
theorem upTo?_padded : upTo? width (padded width n ++ cs) = some (n, cs) := by
  have hall : (padded width n).takeWhile Char.isDigit = padded width n :=
    List.takeWhile_eq_self_iff.2 fun c hc => isDigit_of_mem_padded hc
  have hne : (padded width n).isEmpty = false := by
    rw [List.isEmpty_eq_false_iff, padded_eq]
    exact decimal_ne_nil _ _
  simp only [upTo?, take_padded hwidth h, hall, hne, length_padded hwidth h, drop_padded hwidth h,
    Bool.false_eq_true, if_false]
  rw [padded_eq, natOfDigits_decimal]

end

/-- A number begins with a digit. -/
theorem exists_padded (width n : Nat) :
    ∃ d rest, padded width n = d :: rest ∧ d.isDigit = true := by
  obtain ⟨d, rest, hrest⟩ := List.exists_cons_of_ne_nil
    (decimal_ne_nil (width - (Nat.toDigits 10 n).length) n)
  have hmem : d ∈ padded width n := by
    rw [padded_eq, hrest]
    exact List.mem_cons_self
  exact ⟨d, rest, hrest, isDigit_of_mem_padded hmem⟩

theorem padded_append_ne {width n : Nat} {cs rest : List Char} {c : Char}
    (hc : c.isDigit = false) : padded width n ++ cs ≠ c :: rest := by
  obtain ⟨d, ds, hds, hd⟩ := exists_padded width n
  rw [hds, List.cons_append]
  rintro heq
  rw [(List.cons.inj heq).1, hc] at hd
  cases hd

/-- No blank stands in front of a number. -/
theorem dropWhile_isBlank_padded (width n : Nat) (cs : List Char) :
    (padded width n ++ cs).dropWhile isBlank = padded width n ++ cs := by
  obtain ⟨d, rest, hrest, hd⟩ := exists_padded width n
  rw [hrest, List.cons_append, List.dropWhile_cons_of_neg (by simp [isBlank_of_isDigit hd])]

/-- A field of two digits is read back, with or without a blank in front of it. -/
theorem loose?_padded {n : Nat} (h : n < 100) (cs : List Char) :
    loose? (padded 2 n ++ cs) = some (n, cs) := by
  rw [loose?, dropWhile_isBlank_padded, upTo?_padded (by decide) h]

theorem loose?_blank {n : Nat} (h : n < 100) (cs : List Char) :
    loose? (' ' :: (padded 2 n ++ cs)) = some (n, cs) := by
  have hblank : loose? (' ' :: (padded 2 n ++ cs)) = loose? (padded 2 n ++ cs) := rfl
  rw [hblank, loose?_padded h]

theorem allDigits?_padded (width n : Nat) {cs : List Char} (h : NoDigit cs) :
    allDigits? (padded width n ++ cs) = some (n, cs) := by
  have hne := decimal_ne_nil (width - (Nat.toDigits 10 n).length) n
  rw [allDigits?, padded_eq, takeWhile_decimal h, dropWhile_decimal h]
  simp only [List.isEmpty_eq_false_iff.2 hne, Bool.false_eq_true, if_false, natOfDigits_decimal]

/-- A year is read back, with its sign. -/
theorem year?_yearChars (year : Int) {cs : List Char} (h : NoDigit cs) :
    year? (yearChars year ++ cs) = some (year, cs) := by
  unfold yearChars
  split
  next hneg =>
    have hyear : year? (['-'] ++ padded 4 year.natAbs ++ cs) =
        (allDigits? (padded 4 year.natAbs ++ cs)).map fun p => (-(p.1 : Int), p.2) := rfl
    rw [hyear, allDigits?_padded _ _ h, Option.map_some]
    simp only [Option.some.injEq, Prod.mk.injEq, and_true]
    omega
  next hpos =>
    split
    next hlong =>
      have hyear : year? (['+'] ++ padded 4 year.natAbs ++ cs) =
          (allDigits? (padded 4 year.natAbs ++ cs)).map fun p => ((p.1 : Int), p.2) := rfl
      rw [hyear, allDigits?_padded _ _ h, Option.map_some]
      simp only [Option.some.injEq, Prod.mk.injEq, and_true]
      omega
    next hshort =>
      have hyear : year.natAbs < 10 ^ 4 := by omega
      unfold year?
      rw [List.nil_append, dropWhile_isBlank_padded]
      split
      next heq => exact absurd heq (padded_append_ne rfl)
      next heq => exact absurd heq (padded_append_ne rfl)
      next =>
        rw [upTo?_padded (by decide) hyear, Option.map_some]
        simp only [Option.some.injEq, Prod.mk.injEq, and_true]
        omega

/-- A fraction of up to nine digits is read back, in nanoseconds. -/
theorem fraction?_padded {width n : Nat} (hwidth : 0 < width) (hnine : width ≤ 9)
    (h : n < 10 ^ width) :
    fraction? ('.' :: padded width n) = some (n * tenTo (9 - width), []) := by
  have hnil : NoDigit [] := nofun
  have htake : (padded width n).takeWhile Char.isDigit = padded width n := by
    have := takeWhile_decimal hnil (width - (Nat.toDigits 10 n).length) n
    rwa [List.append_nil] at this
  have hdrop : (padded width n).dropWhile Char.isDigit = [] := by
    have := dropWhile_decimal hnil (width - (Nat.toDigits 10 n).length) n
    rwa [List.append_nil] at this
  have hkept : (padded width n).take 9 = padded width n :=
    List.take_of_length_le (by rw [length_padded hwidth h]; exact hnine)
  have hne : (padded width n).isEmpty = false :=
    List.isEmpty_eq_false_iff.2 (decimal_ne_nil _ _)
  simp only [fraction?, htake, hdrop, hkept, hne, length_padded hwidth h, Bool.false_eq_true,
    if_false]
  rw [padded_eq, natOfDigits_decimal]

/-- The fraction of a second is read back, with any number of digits. -/
theorem fraction?_fractionChars {nano : Nat} (h : nano < 1000000000) :
    fraction? (fractionChars nano) = some (nano, []) := by
  unfold fractionChars
  split
  next hzero => rw [hzero]; rfl
  split
  next hmillis =>
    rw [fraction?_padded (by decide) (by decide) (by omega)]
    have hten : tenTo (9 - 3) = 1000000 := rfl
    rw [hten, Nat.div_mul_cancel (Nat.dvd_of_mod_eq_zero hmillis)]
  split
  next hmicros =>
    rw [fraction?_padded (by decide) (by decide) (by omega)]
    have hten : tenTo (9 - 6) = 1000 := rfl
    rw [hten, Nat.div_mul_cancel (Nat.dvd_of_mod_eq_zero hmicros)]
  next =>
    rw [fraction?_padded (by decide) (by decide) h]
    have hten : tenTo (9 - 9) = 1 := rfl
    rw [hten, Nat.mul_one]

/-! ### The written form -/

/-- The written form, field by field. -/
theorem chars_eq (t : Timestamp) :
    t.chars = yearChars t.year ++ '-' :: (padded 2 t.month ++ '-' :: (padded 2 t.day ++
      ' ' :: (padded 2 t.hour ++ ':' :: (padded 2 t.minute ++ ':' :: (padded 2 t.second ++
        fractionChars t.nano))))) := by
  simp only [chars, List.append_assoc, List.cons_append]

/-- A year begins with its sign or with a digit, so without a blank. -/
theorem exists_yearChars (year : Int) :
    ∃ c rest, yearChars year = c :: rest ∧ isBlank c = false := by
  unfold yearChars
  split
  next => exact ⟨_, _, rfl, by decide⟩
  split
  next => exact ⟨_, _, rfl, by decide⟩
  next =>
    obtain ⟨d, rest, hrest, hd⟩ := exists_padded 4 year.natAbs
    exact ⟨d, rest, hrest, isBlank_of_isDigit hd⟩

/-- A number ends with a digit, whatever stands in front of it. -/
theorem getLast?_append_padded (front : List Char) (width n : Nat) :
    ∃ d, (front ++ padded width n).getLast? = some d ∧ d.isDigit = true := by
  have hne : padded width n ≠ [] := decimal_ne_nil _ _
  refine ⟨(padded width n).getLast hne, ?_, isDigit_of_mem_padded (List.getLast_mem hne)⟩
  rw [List.getLast?_eq_some_getLast (List.append_ne_nil_of_right_ne_nil front hne),
    List.getLast_append_of_ne_nil _ hne]

/-- The last field of a written timestamp is its second or a fraction of it. -/
theorem exists_append_padded (front : List Char) (second nano : Nat) :
    ∃ before width n, front ++ (padded 2 second ++ fractionChars nano) =
      before ++ padded width n := by
  unfold fractionChars
  split
  next => exact ⟨front, 2, second, by rw [List.append_nil]⟩
  split
  next => exact ⟨front ++ padded 2 second ++ ['.'], 3, nano / 1000000, by simp⟩
  split
  next => exact ⟨front ++ padded 2 second ++ ['.'], 6, nano / 1000, by simp⟩
  next => exact ⟨front ++ padded 2 second ++ ['.'], 9, nano, by simp⟩

/-- A written timestamp has no blanks around it. -/
theorem trimChars_chars (t : Timestamp) : trimChars t.chars = t.chars := by
  obtain ⟨c, rest, hyear, hc⟩ := exists_yearChars t.year
  have hhead : t.chars.head? = some c := by rw [chars_eq, hyear]; rfl
  obtain ⟨d, hlast, hd⟩ : ∃ d, t.chars.getLast? = some d ∧ d.isDigit = true := by
    obtain ⟨before, width, n, hbefore⟩ := exists_append_padded
      (yearChars t.year ++ '-' :: (padded 2 t.month ++ '-' :: (padded 2 t.day ++
        ' ' :: (padded 2 t.hour ++ ':' :: (padded 2 t.minute ++ [':']))))) t.second t.nano
    have hchars : t.chars = before ++ padded width n := by
      rw [← hbefore, chars_eq]
      simp only [List.append_assoc, List.cons_append, List.nil_append]
    rw [hchars]
    exact getLast?_append_padded before width n
  have htrim : trimChars ([] ++ t.chars ++ []) = t.chars :=
    trimChars_of_ends nofun nofun hhead hc hlast (isBlank_of_isDigit hd)
  rwa [List.nil_append, List.append_nil] at htrim

/-! ### Reading the written form -/

@[simp] theorem expect?_cons (c : Char) (cs : List Char) : expect? c (c :: cs) = some cs :=
  if_pos rfl

theorem bind_of_eq_some {α β : Type} {x : Option α} {a : α} (h : x = some a) (f : α → Option β) :
    (x >>= f) = f a := by rw [h]; rfl

/-- A field of its full width is not there where a sign stands. -/
theorem fixed?_eq_none {width : Nat} {c : Char} {cs : List Char} (hwidth : 0 < width)
    (h : c.isDigit = false) : fixed? width (c :: cs) = none := by
  obtain ⟨width, rfl⟩ := Nat.exists_eq_succ_of_ne_zero (Nat.ne_of_gt hwidth)
  simp only [fixed?, List.take_succ_cons, List.all_cons, h, Bool.false_and, Bool.false_eq_true,
    and_false, if_false]

namespace Valid

variable {t : Timestamp} (h : t.Valid)

include h

theorem month_day : t.month < 100 ∧ t.day < 100 := by
  have hdate := h.date
  simp only [Calendar.isDate, Bool.and_eq_true, decide_eq_true_eq] at hdate
  obtain ⟨⟨-, hfirst⟩, hlast⟩ := hdate
  unfold Calendar.daysInMonth at hlast
  split at hlast
  all_goals first | (split at hlast <;> omega) | omega

theorem fields_lt : t.hour < 10 ^ 2 ∧ t.minute < 10 ^ 2 ∧ t.second < 10 ^ 2 :=
  ⟨Nat.lt_trans h.hour (by decide), Nat.lt_trans h.minute (by decide),
    Nat.lt_of_le_of_lt h.second (by decide)⟩

/-- A written timestamp has no zone. -/
theorem zoned?_chars : zoned? t.chars = none := by
  obtain ⟨hmonth, hday⟩ := h.month_day
  obtain ⟨hhour, hminute, hsecond⟩ := h.fields_lt
  rw [chars_eq, zoned?, yearChars]
  split
  next =>
    rw [List.append_assoc, List.singleton_append, fixed?_eq_none (by decide) rfl]
    rfl
  split
  next =>
    rw [List.append_assoc, List.singleton_append, fixed?_eq_none (by decide) rfl]
    rfl
  next hsigned hlong =>
    have hyear : t.year.natAbs < 10 ^ 4 := by omega
    rw [List.nil_append]
    refine (bind_of_eq_some (fixed?_padded (by decide) hyear _) _).trans ?_
    refine (bind_of_eq_some (expect?_cons '-' _) _).trans ?_
    refine (bind_of_eq_some (fixed?_padded (by decide) hmonth _) _).trans ?_
    refine (bind_of_eq_some (expect?_cons '-' _) _).trans ?_
    refine (bind_of_eq_some (fixed?_padded (by decide) hday _) _).trans ?_
    refine (bind_of_eq_some (fixed?_padded (by decide) hhour _) _).trans ?_
    refine (bind_of_eq_some (expect?_cons ':' _) _).trans ?_
    refine (bind_of_eq_some (fixed?_padded (by decide) hminute _) _).trans ?_
    refine (bind_of_eq_some (expect?_cons ':' _) _).trans ?_
    refine (bind_of_eq_some (fixed?_padded (by decide) hsecond _) _).trans ?_
    refine (bind_of_eq_some (fraction?_fractionChars h.nano) _).trans ?_
    -- The offset of the zone is missing.
    rfl

/-- A written timestamp is read back in the form with a blank. -/
theorem spaced?_chars : spaced? t.chars = some t := by
  obtain ⟨hmonth, hday⟩ := h.month_day
  obtain ⟨hhour, hminute, hsecond⟩ := h.fields_lt
  have hparts : ofParts? t.year t.month t.day t.hour t.minute t.second t.nano = some t :=
    ofParts?_eq_some_iff.2 ⟨rfl, h⟩
  have hyear (cs : List Char) : year? (yearChars t.year ++ '-' :: cs) = some (t.year, '-' :: cs) :=
    year?_yearChars _ (NoDigit.cons rfl)
  rw [chars_eq]
  simp only [spaced?, looseDate?, looseTime?, hyear, loose?_padded hmonth, loose?_padded hday,
    loose?_blank hhour, loose?_padded hminute, loose?_padded hsecond,
    fraction?_fractionChars h.nano, expect?_cons, hparts, List.isEmpty_nil, if_true,
    Option.bind_eq_bind, Option.bind_some, Option.pure_def]

end Valid

/-- **A written timestamp is read as the timestamp itself.** -/
theorem ofText?_render {t : Timestamp} (h : t.Valid) : ofText? t.render = some t := by
  simp only [ofText?, render, String.toList_ofList, trimChars_chars, h.zoned?_chars,
    h.spaced?_chars, Option.none_or, Option.some_or]

/-- A written timestamp refers to nothing. -/
theorem not_refers_chars (t : Timestamp) : ¬ Refers t.chars := by
  have hpadded (width n : Nat) : '\x7d' ∉ padded width n := fun h =>
    absurd (isDigit_of_mem_padded h) (by decide)
  refine fun h => absurd h.mem_closing ?_
  rw [chars_eq, yearChars, fractionChars]
  split_ifs
  all_goals simp [hpadded]

end Timestamp

/-! ### Date parameters -/

open Timestamp

theorem valid_of_asTimestamp {v : Json} {t : Timestamp} (h : asTimestamp v = .ok t) :
    t.Valid := by
  unfold asTimestamp at h
  split at h
  case h_1 s =>
    cases hs : ofText? s with
    | none => rw [hs] at h; cases h
    | some u =>
      rw [hs] at h
      obtain rfl := Except.ok.inj h
      exact valid_of_ofText? hs
  case h_2 =>
    cases hm : v.int64?.bind fun i => ofMillis? i.toInt with
    | none => rw [hm] at h; cases h
    | some u =>
      rw [hm] at h
      obtain rfl := Except.ok.inj h
      obtain ⟨i, -, hi⟩ := Option.bind_eq_some_iff.1 hm
      exact valid_of_ofMillis? hi

/-- A date parameter is a moment in range, if it is one. -/
theorem valid_of_normalizeScalar {v : Json} {t : Timestamp}
    (h : normalizeScalar .date v = .ok (.timestamp t)) : t.Valid := by
  rw [normalizeScalar] at h
  split at h
  next => cases h
  obtain ⟨u, hu, heq⟩ := map_eq_ok_iff.1 h
  obtain rfl := BindValue.timestamp.inj heq
  exact valid_of_asTimestamp hu

/-- What a parameter binds, other than SQL text, are values that are normalized one by one. -/
theorem exists_normalizeScalar {kind : ParameterKind} {v : Json} {a : Argument} {b : BindValue}
    (hkind : kind ≠ .sql) (ha : normalize kind v = .ok a) (hb : b ∈ a.values) :
    ∃ w, normalizeScalar kind w = .ok b := by
  unfold normalize at ha
  split at ha
  case h_1 => cases ha
  case h_2 => exact absurd rfl hkind
  case h_3 =>
    split at ha
    next hvalues =>
      obtain rfl := Except.ok.inj ha
      obtain ⟨w, -, hw⟩ := exists_of_mem_answers hvalues hb
      exact ⟨w, hw⟩
    next => cases ha
  case h_4 =>
    split at ha
    next hvalue =>
      obtain rfl := Except.ok.inj ha
      refine ⟨v, hvalue.trans (congrArg Except.ok ?_)⟩
      unfold Argument.values at hb
      split at hb
      · cases hb
      · rename_i heq
        obtain rfl := Argument.scalar.inj heq
        exact (List.mem_singleton.1 hb).symm
      all_goals rename_i heq; cases heq
    next => cases ha

theorem normalizeScalar_render {t : Timestamp} (h : t.Valid) :
    normalizeScalar .date (.string t.render) = .ok (.timestamp t) := by
  have htext : asTimestamp (.string t.render) = .ok t := by
    simp only [asTimestamp, ofText?_render h]
  rw [normalizeScalar, htext]
  rfl

/-- **Date parameters survive their written form.**  Whatever moment a date parameter binds, be it
one of several and be it found by a reference to an earlier result, the text that is shown and
stored for it binds the same moment again, in every context. -/
theorem argument_render {c : Context} {p : Parameter} {a : Argument} {t : Timestamp}
    (hkind : p.kind = .date) (ha : p.argument c = .ok a) (ht : .timestamp t ∈ a.values)
    (d : Context) :
    (BindValue.timestamp t).toJson = .string t.render ∧
      Parameter.argument d ⟨.date, .string t.render⟩ = .ok (.scalar (.timestamp t)) := by
  refine ⟨rfl, ?_⟩
  have hvalid : t.Valid := by
    unfold Parameter.argument at ha
    split at ha
    next => cases ha
    next =>
      rw [hkind] at ha
      obtain ⟨w, hw⟩ := exists_normalizeScalar (by decide) (mapError_eq_ok ha) ht
      exact valid_of_normalizeScalar hw
  have hclosed : Parameter.Closed ⟨.date, .string t.render⟩ := by
    rintro text ⟨⟩
    rw [render, String.toList_ofList]
    exact not_refers_chars t
  rw [hclosed.argument_eq d]
  simp only [normalize, normalizeScalar_render hvalid, Except.mapError]

theorem argument_render_leap :
    Parameter.argument .empty ⟨.date, .array [.integer (-62198755200001),
        .string "  -44-3-15T23:59:60.1234567890"]⟩ =
      .ok (.list [.timestamp ⟨-2, 12, 31, 23, 59, 59, 999000000⟩,
        .timestamp ⟨-44, 3, 15, 23, 59, 60, 123456789⟩]) ∧
    Parameter.argument .empty ⟨.date, .string "-0044-03-15 23:59:60.123456789"⟩ =
      .ok (.scalar (.timestamp ⟨-44, 3, 15, 23, 59, 60, 123456789⟩)) := by
  have hmillis : (Json.integer (-62198755200001)).int64?.bind (fun i => ofMillis? i.toInt) =
      some ⟨-2, 12, 31, 23, 59, 59, 999000000⟩ := by decide +kernel
  have htext : ofText? "  -44-3-15T23:59:60.1234567890" =
      some ⟨-44, 3, 15, 23, 59, 60, 123456789⟩ := by decide +kernel
  have hlist : Parameter.argument .empty ⟨.date, .array [.integer (-62198755200001),
        .string "  -44-3-15T23:59:60.1234567890"]⟩ =
      .ok (.list [.timestamp ⟨-2, 12, 31, 23, 59, 59, 999000000⟩,
        .timestamp ⟨-44, 3, 15, 23, 59, 60, 123456789⟩]) := by
    simp only [Parameter.argument, interpolate, normalize, List.mapM_cons, List.mapM_nil,
      normalizeScalar, Json.isNull, asTimestamp, hmillis, htext]
    rfl
  refine ⟨hlist, ?_⟩
  have hrender := (argument_render rfl hlist (List.mem_cons_of_mem _ List.mem_cons_self) .empty).2
  have hchars : render ⟨-44, 3, 15, 23, 59, 60, 123456789⟩ = "-0044-03-15 23:59:60.123456789" := by
    decide +kernel
  rwa [hchars] at hrender

end BoundQuery
