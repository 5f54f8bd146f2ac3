import Mathlib.Data.List.Lex
import Mathlib.Algebra.Order.Ring.Nat
import Mathlib.Tactic.Ring

namespace ReliabilityLab

theorem append_lt_append_of_lt {x y : List Char} (same : x.length = y.length) (less : x < y)
    (u v : List Char) : x ++ u < y ++ v := by
  induction x generalizing y with
  | nil => cases y with
    | nil => exact absurd less (List.lt_irrefl _)
    | cons => simp at same
  | cons c x ih =>
    cases y with
    | nil => simp at same
    | cons d y =>
      simp only [List.cons_append, List.cons_lt_cons_iff] at less ⊢
      rcases less with head | ⟨equal, tail⟩
      · exact Or.inl head
      · exact Or.inr ⟨equal, ih (by simpa using same) tail⟩

theorem append_lt_append_left {u v : List Char} (x : List Char) (less : u < v) : x ++ u < x ++ v := by
  induction x with
  | nil => exact less
  | cons c x ih => exact List.cons_lt_cons_iff.mpr (Or.inr ⟨rfl, ih⟩)

/-- A fixed-width rendering of the numbers below `bound` whose text order is
the numeric order. -/
structure OrderedText (bound : Nat) (text : Nat → List Char) : Prop where
  width : ∀ {n m}, n < bound → m < bound → (text n).length = (text m).length
  mono : ∀ {n m}, n < m → m < bound → text n < text m

def digitChar (n : Nat) : Char := Char.ofNat (48 + n % 10)

/-- Decimal digits, padded with zeros or cut to `width`. -/
def digits : Nat → Nat → List Char
  | 0, _ => []
  | width + 1, n => digits width (n / 10) ++ [digitChar n]

theorem digits_length (width n : Nat) : (digits width n).length = width := by
  induction width generalizing n with
  | zero => rfl
  | succ width ih => simp [digits, ih]

theorem digitChar_lt {n m : Nat} (less : n % 10 < m % 10) : digitChar n < digitChar m := by
  have small : ∀ a < 10, ∀ b < 10, a < b → Char.ofNat (48 + a) < Char.ofNat (48 + b) := by decide
  exact small _ (Nat.mod_lt _ (by omega)) _ (Nat.mod_lt _ (by omega)) less

theorem digits_ordered (width : Nat) : OrderedText (10 ^ width) (digits width) where
  width := fun _ _ => by simp only [digits_length]
  mono := by
    induction width with
    | zero => intro n m less bound; simp at bound; omega
    | succ width ih =>
      intro n m less bound
      have high : m / 10 < 10 ^ width := Nat.div_lt_of_lt_mul (by rw [pow_succ] at bound; omega)
      rcases Nat.lt_or_ge (n / 10) (m / 10) with above | below
      · exact append_lt_append_of_lt (by simp only [digits_length]) (ih above high) _ _
      · have equal : n / 10 = m / 10 := by omega
        simp only [digits, equal]
        exact append_lt_append_left _ (List.cons_lt_cons_iff.mpr (Or.inl (digitChar_lt (by omega))))

/-- Quotient and remainder rendered one after the other, with a separator. -/
theorem OrderedText.divMod {high low : Nat} {f g : Nat → List Char} (ordered : OrderedText high f)
    (orderedLow : OrderedText low g) (separator : List Char) (positive : 0 < low) :
    OrderedText (high * low) fun n => f (n / low) ++ separator ++ g (n % low) where
  width := by
    intro n m hn hm
    have atHigh := ordered.width (Nat.div_lt_of_lt_mul (by rw [mul_comm]; exact hn))
      (Nat.div_lt_of_lt_mul (by rw [mul_comm]; exact hm))
    have atLow := orderedLow.width (Nat.mod_lt n positive) (Nat.mod_lt m positive)
    simp only [List.length_append, atHigh, atLow]
  mono := by
    intro n m less bound
    have boundHigh : m / low < high := Nat.div_lt_of_lt_mul (by rw [mul_comm]; exact bound)
    rcases Nat.lt_or_ge (n / low) (m / low) with above | below
    · simp only [List.append_assoc]
      exact append_lt_append_of_lt (ordered.width (above.trans boundHigh) boundHigh)
        (ordered.mono above boundHigh) _ _
    · have equal : n / low = m / low := le_antisymm (Nat.div_le_div_right less.le) below
      have remainder : n % low < m % low := by
        have atN := Nat.div_add_mod n low
        have atM := Nat.div_add_mod m low
        rw [equal] at atN
        omega
      simp only [equal]
      exact append_lt_append_left _ (orderedLow.mono remainder (Nat.mod_lt _ positive))

/-! The proleptic Gregorian calendar; day 0 is 1 January of year 1. -/

def isLeap (year : Nat) : Bool := year % 4 == 0 && (year % 100 != 0 || year % 400 == 0)

def yearLength (year : Nat) : Nat := if isLeap year then 366 else 365

/-- Days before 1 January of `year`. -/
def daysBeforeYear (year : Nat) : Nat :=
  let past := year - 1
  past * 365 + past / 4 + past / 400 - past / 100

/-- The cycles a day falls in: whole 400, 100, 4 and 1 years before it. -/
structure Cycles where
  era : Nat
  century : Nat
  olympiad : Nat
  single : Nat

def cyclesOf (day : Nat) : Cycles :=
  let inEra := day % 146097
  let century := min (inEra / 36524) 3
  let inCentury := inEra - 36524 * century
  ⟨day / 146097, century, inCentury / 1461, min (inCentury % 1461 / 365) 3⟩

def Cycles.year (c : Cycles) : Nat := 400 * c.era + 100 * c.century + 4 * c.olympiad + c.single + 1

def yearOf (day : Nat) : Nat := (cyclesOf day).year

def dayOfYear (day : Nat) : Nat := day - daysBeforeYear (yearOf day)

theorem yearOf_pos (day : Nat) : 1 ≤ yearOf day := Nat.succ_pos _

/-- Additive form of `daysBeforeYear`, free of truncated subtraction. -/
theorem daysBeforeYear_add (past : Nat) :
    daysBeforeYear (past + 1) + past / 100 = past * 365 + past / 4 + past / 400 := by
  have small : past / 100 ≤ past := Nat.div_le_self past 100
  simp only [daysBeforeYear, Nat.add_sub_cancel]
  generalize past / 4 = fours, past / 400 = eras, past / 100 = hundreds at *
  omega

theorem daysBeforeYear_succ {year : Nat} (positive : 1 ≤ year) :
    daysBeforeYear (year + 1) = daysBeforeYear year + yearLength year := by
  obtain ⟨past, rfl⟩ : ∃ past, year = past + 1 := ⟨year - 1, by omega⟩
  have before := daysBeforeYear_add past
  have after := daysBeforeYear_add (past + 1)
  rw [Nat.succ_div, Nat.succ_div, Nat.succ_div] at after
  have fours : 100 ∣ past + 1 → 4 ∣ past + 1 := fun h => (by decide : 4 ∣ 100).trans h
  have hundreds : 400 ∣ past + 1 → 100 ∣ past + 1 := fun h => (by decide : 100 ∣ 400).trans h
  simp only [yearLength, isLeap, Bool.and_eq_true, Bool.or_eq_true, beq_iff_eq, bne_iff_ne, ne_eq,
    ← Nat.dvd_iff_mod_eq_zero]
  generalize past / 4 = a, past / 100 = b, past / 400 = c, daysBeforeYear (past + 1) = d,
    daysBeforeYear (past + 1 + 1) = e at *
  by_cases four : 4 ∣ past + 1 <;> by_cases hundred : 100 ∣ past + 1 <;>
    by_cases whole : 400 ∣ past + 1 <;> simp only [four, hundred, whole] at * <;> simp at * <;> omega

theorem daysBeforeYear_mono {a b : Nat} (le : a ≤ b) : daysBeforeYear a ≤ daysBeforeYear b := by
  induction le with
  | refl => exact le_rfl
  | @step year _ ih =>
    rcases Nat.eq_zero_or_pos year with zero | positive
    · subst zero; exact ih
    · exact ih.trans (by rw [daysBeforeYear_succ positive]; exact Nat.le_add_right _ _)

theorem cyclesOf_bounds (day : Nat) :
    (cyclesOf day).century ≤ 3 ∧ (cyclesOf day).olympiad ≤ 24 ∧ (cyclesOf day).single ≤ 3 := by
  simp only [cyclesOf]; omega

theorem daysBeforeYear_cycles {c : Cycles} (century : c.century ≤ 3) (olympiad : c.olympiad ≤ 24)
    (single : c.single ≤ 3) :
    daysBeforeYear c.year = 146097 * c.era + 36524 * c.century + 1461 * c.olympiad + 365 * c.single := by
  have byFour : (c.year - 1) / 4 = 100 * c.era + 25 * c.century + c.olympiad := by
    simp only [Cycles.year]; omega
  have byHundred : (c.year - 1) / 100 = 4 * c.era + c.century := by simp only [Cycles.year]; omega
  have byWhole : (c.year - 1) / 400 = c.era := by simp only [Cycles.year]; omega
  simp only [daysBeforeYear, byFour, byHundred, byWhole]
  simp only [Cycles.year]
  omega

theorem yearLength_cycles {c : Cycles} (olympiad : c.olympiad ≤ 24)
    (last : c.single = 3) (leap : c.olympiad ≠ 24 ∨ c.century = 3) : yearLength c.year = 366 := by
  have byFour : c.year % 4 = 0 := by simp only [Cycles.year]; omega
  have byWhole : c.year % 100 ≠ 0 ∨ c.year % 400 = 0 := by simp only [Cycles.year]; omega
  simp [yearLength, isLeap, byFour, byWhole]

theorem daysBeforeYear_yearOf_le (day : Nat) : daysBeforeYear (yearOf day) ≤ day := by
  obtain ⟨century, olympiad, single⟩ := cyclesOf_bounds day
  rw [yearOf, daysBeforeYear_cycles century olympiad single]
  simp only [cyclesOf]
  omega

theorem lt_daysBeforeYear_yearOf (day : Nat) : day < daysBeforeYear (yearOf day + 1) := by
  obtain ⟨century, olympiad, single⟩ := cyclesOf_bounds day
  have least : 365 ≤ yearLength (yearOf day) := by unfold yearLength; split <;> omega
  rw [daysBeforeYear_succ (yearOf_pos day)]
  by_cases leap : (cyclesOf day).single = 3 ∧ ((cyclesOf day).olympiad ≠ 24 ∨ (cyclesOf day).century = 3)
  · have length := yearLength_cycles olympiad leap.1 leap.2
    rw [yearOf, daysBeforeYear_cycles century olympiad single, length, leap.1]
    simp only [cyclesOf]
    omega
  · rw [yearOf] at least ⊢
    rw [daysBeforeYear_cycles century olympiad single]
    refine Nat.lt_of_lt_of_le ?_ (Nat.add_le_add_left least _)
    simp only [cyclesOf] at leap ⊢
    omega

theorem dayOfYear_lt (day : Nat) : dayOfYear day < yearLength (yearOf day) := by
  have upper := lt_daysBeforeYear_yearOf day
  rw [daysBeforeYear_succ (yearOf_pos day)] at upper
  have lower := daysBeforeYear_yearOf_le day
  simp only [dayOfYear]
  omega

theorem yearOf_mono {a b : Nat} (le : a ≤ b) : yearOf a ≤ yearOf b := by
  by_contra above
  have step := daysBeforeYear_mono (show yearOf b + 1 ≤ yearOf a by omega)
  have upper := lt_daysBeforeYear_yearOf b
  have lower := daysBeforeYear_yearOf_le a
  omega

/-- Later days are in a later year, or later in the same year. -/
theorem yearOf_lt_or {a b : Nat} (less : a < b) :
    yearOf a < yearOf b ∨ yearOf a = yearOf b ∧ dayOfYear a < dayOfYear b := by
  rcases (yearOf_mono less.le).lt_or_eq with earlier | same
  · exact Or.inl earlier
  · have lower := daysBeforeYear_yearOf_le a
    rw [same] at lower
    refine Or.inr ⟨same, ?_⟩
    simp only [dayOfYear, same]
    omega

/-- Index of the segment that `n` falls in, and the position inside it. -/
def segment : List Nat → Nat → Nat × Nat
  | [], n => (0, n)
  | length :: rest, n => if n < length then (0, n) else ((segment rest (n - length)).1 + 1, (segment rest (n - length)).2)

theorem segment_lt_or {lengths : List Nat} {n m : Nat} (less : n < m) :
    (segment lengths n).1 < (segment lengths m).1 ∨
      (segment lengths n).1 = (segment lengths m).1 ∧ (segment lengths n).2 < (segment lengths m).2 := by
  induction lengths generalizing n m with
  | nil => exact Or.inr ⟨rfl, less⟩
  | cons length rest ih =>
    simp only [segment]
    split
    · split
      · exact Or.inr ⟨rfl, less⟩
      · exact Or.inl (Nat.succ_pos _)
    · rw [if_neg (by omega)]
      rcases ih (show n - length < m - length by omega) with index | ⟨same, position⟩
      · exact Or.inl (by omega)
      · exact Or.inr ⟨by omega, position⟩

theorem segment_bounds {lengths : List Nat} {n bound : Nat} (inside : n < lengths.sum)
    (short : ∀ length ∈ lengths, length ≤ bound) :
    (segment lengths n).1 < lengths.length ∧ (segment lengths n).2 < bound := by
  induction lengths generalizing n with
  | nil => simp at inside
  | cons length rest ih =>
    simp only [List.sum_cons] at inside
    have first := short length (List.mem_cons_self ..)
    simp only [segment]
    split
    · exact ⟨by simp, by omega⟩
    · obtain ⟨index, position⟩ := ih (show n - length < rest.sum by omega)
        fun other member => short other (List.mem_cons_of_mem _ member)
      exact ⟨by simpa using index, position⟩

def monthLengths (leap : Bool) : List Nat :=
  [31, if leap then 29 else 28, 31, 30, 31, 30, 31, 31, 30, 31, 30, 31]

/-- Month and day of the month, both from 1. -/
def monthDay (leap : Bool) (inYear : Nat) : Nat × Nat :=
  let (month, day) := segment (monthLengths leap) inYear
  (month + 1, day + 1)

theorem monthLengths_sum (year : Nat) : (monthLengths (isLeap year)).sum = yearLength year := by
  cases leap : isLeap year <;> simp [monthLengths, yearLength, leap]

/-- `YYYY-MM-DD` of a day. -/
def dateText (day : Nat) : List Char :=
  let year := yearOf day
  let (month, inMonth) := monthDay (isLeap year) (dayOfYear day)
  digits 4 year ++ '-' :: (digits 2 month ++ '-' :: digits 2 inMonth)

/-- Days of the years 1 to 9999. -/
def maxDays : Nat := 3652059

theorem yearOf_lt {day : Nat} (inside : day < maxDays) : yearOf day < 10 ^ 4 := by
  by_contra above
  have step := daysBeforeYear_mono (show 10000 ≤ yearOf day by omega)
  have lower := daysBeforeYear_yearOf_le day
  have last : daysBeforeYear 10000 = maxDays := by decide
  omega

theorem monthDay_lt {leap : Bool} {a b : Nat} (less : a < b) (inside : b < (monthLengths leap).sum) :
    digits 2 (monthDay leap a).1 ++ '-' :: digits 2 (monthDay leap a).2 <
      digits 2 (monthDay leap b).1 ++ '-' :: digits 2 (monthDay leap b).2 := by
  have short : ∀ length ∈ monthLengths leap, length ≤ 31 := by cases leap <;> decide
  obtain ⟨index, position⟩ := segment_bounds inside short
  have twelve : (monthLengths leap).length = 12 := rfl
  simp only [monthDay]
  rcases @segment_lt_or (monthLengths leap) _ _ less with month | ⟨same, day⟩
  · exact append_lt_append_of_lt (by simp only [digits_length])
      ((digits_ordered 2).mono (by omega) (by omega)) _ _
  · rw [same]
    exact append_lt_append_left _ (List.cons_lt_cons_iff.mpr (Or.inr ⟨rfl,
      (digits_ordered 2).mono (by omega) (by omega)⟩))

theorem dateText_ordered : OrderedText maxDays dateText where
  width := fun _ _ => by simp only [dateText, List.length_append, List.length_cons, digits_length]
  mono := by
    intro n m less inside
    simp only [dateText]
    rcases yearOf_lt_or less with earlier | ⟨same, later⟩
    · exact append_lt_append_of_lt (by simp only [digits_length])
        ((digits_ordered 4).mono earlier (yearOf_lt inside)) _ _
    · rw [same]
      refine append_lt_append_left _ (List.cons_lt_cons_iff.mpr (Or.inr ⟨rfl, monthDay_lt later ?_⟩))
      rw [monthLengths_sum]
      exact dayOfYear_lt m

/-- `hh:mm:ss` of a second of the day. -/
def timeText (second : Nat) : List Char :=
  digits 2 (second / 60 / 60) ++ [':'] ++ digits 2 (second / 60 % 60) ++ [':'] ++ digits 2 (second % 60)

theorem OrderedText.mono_bound {low high : Nat} {f : Nat → List Char} (ordered : OrderedText high f)
    (le : low ≤ high) : OrderedText low f where
  width := fun hn hm => ordered.width (hn.trans_le le) (hm.trans_le le)
  mono := fun less bound => ordered.mono less (bound.trans_le le)

theorem timeText_ordered : OrderedText 86400 timeText := by
  have two := digits_ordered 2
  have minutes := (two.mono_bound (by omega : 24 ≤ 10 ^ 2)).divMod
    (two.mono_bound (by omega : 60 ≤ 10 ^ 2)) [':'] (by omega)
  exact minutes.divMod (two.mono_bound (by omega : 60 ≤ 10 ^ 2)) [':'] (by omega)

/-- `YYYY-MM-DDThh:mm:ss` of a second since the first day. -/
def secondText (second : Nat) : List Char :=
  dateText (second / 86400) ++ ['T'] ++ timeText (second % 86400)

theorem secondText_ordered : OrderedText (maxDays * 86400) secondText :=
  dateText_ordered.divMod timeText_ordered ['T'] (by omega)

end ReliabilityLab
