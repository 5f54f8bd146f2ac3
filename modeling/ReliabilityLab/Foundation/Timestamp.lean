import Mathlib.Data.String.Basic
import ReliabilityLab.Foundation.Calendar

namespace ReliabilityLab

/-- Microseconds of the representable wall clock, years 1 to 9999. -/
def maxWall : Nat := maxDays * 86400 * 1000000

/-- An aware datetime: the wall clock reading in microseconds since the first
day, and the offset of that wall clock from UTC. -/
structure DateTime where
  wall : Nat
  offset : Int
  wall_lt : wall < maxWall
  offset_lt : offset.natAbs < 86400 * 1000000
  deriving DecidableEq

namespace DateTime

/-- The point in time, as microseconds of UTC. -/
def instant (t : DateTime) : Int := t.wall - t.offset

def utc (wall : Nat) (inside : wall < maxWall) : DateTime := ⟨wall, 0, inside, by decide⟩

/-- Wall clock addition with the offset kept; `none` past year 9999. -/
def plus (t : DateTime) (micros : Nat) : Option DateTime :=
  if inside : t.wall + micros < maxWall then some ⟨t.wall + micros, t.offset, inside, t.offset_lt⟩ else none

/-- The fraction that `isoformat` writes only when it is not zero. -/
def fractionText (micro : Nat) : List Char := if micro = 0 then [] else '.' :: digits 6 micro

/-- `+hh:mm`, with seconds and their fraction only where the offset has them. -/
def offsetText (offset : Int) : List Char :=
  let size := offset.natAbs
  let seconds := size / 1000000
  (if offset < 0 then '-' else '+') :: (digits 2 (seconds / 3600) ++ ':' :: digits 2 (seconds / 60 % 60) ++
    (if size % 60000000 = 0 then [] else ':' :: digits 2 (seconds % 60) ++ fractionText (size % 1000000)))

def isoChars (t : DateTime) : List Char :=
  secondText (t.wall / 1000000) ++ fractionText (t.wall % 1000000) ++ offsetText t.offset

def isoformat (t : DateTime) : String := String.ofList t.isoChars

theorem plus_some {t u : DateTime} {micros : Nat} (sum : t.plus micros = some u) :
    u.wall = t.wall + micros ∧ u.offset = t.offset := by
  unfold plus at sum
  split at sum
  · cases Option.some.inj sum; exact ⟨rfl, rfl⟩
  · cases sum

theorem plus_instant {t u : DateTime} {micros : Nat} (sum : t.plus micros = some u) :
    u.instant = t.instant + micros := by
  obtain ⟨wall, offset⟩ := plus_some sum
  simp only [instant, wall, offset]
  omega

/-- The sign of an offset, which its text starts with. -/
def offsetSign (offset : Int) : Char := if offset < 0 then '-' else '+'

theorem offsetText_sign (offset : Int) : offsetText offset = offsetSign offset :: (offsetText offset).tail := rfl

theorem offsetSign_lt (offset : Int) : offsetSign offset < '.' := by
  unfold offsetSign
  split <;> decide

/-- Within one second the shorter text without a fraction comes first, because
the sign of an offset sorts before the decimal point. -/
theorem fractionText_lt {a b : Nat} (less : a < b) (inside : b < 1000000) (left right : Int) :
    fractionText a ++ offsetText left < fractionText b ++ offsetText right := by
  have later : b ≠ 0 := by omega
  simp only [fractionText, later, if_false]
  split
  · rw [offsetText_sign left]
    exact List.cons_lt_cons_iff.mpr (Or.inl (offsetSign_lt left))
  · refine List.cons_lt_cons_iff.mpr (Or.inr ⟨rfl, ?_⟩)
    exact append_lt_append_of_lt (by simp only [digits_length])
      ((digits_ordered 6).mono less (by omega)) _ _

/-- The wall clock decides first, whatever the offsets are. -/
theorem isoChars_lt {t u : DateTime} (less : t.wall < u.wall) : t.isoChars < u.isoChars := by
  have boundU : u.wall / 1000000 < maxDays * 86400 :=
    Nat.div_lt_of_lt_mul (by rw [mul_comm]; exact u.wall_lt)
  simp only [isoChars, List.append_assoc]
  rcases Nat.lt_or_ge (t.wall / 1000000) (u.wall / 1000000) with earlier | same
  · exact append_lt_append_of_lt (secondText_ordered.width (earlier.trans boundU) boundU)
      (secondText_ordered.mono earlier boundU) _ _
  · have equal : t.wall / 1000000 = u.wall / 1000000 := by omega
    rw [equal]
    exact append_lt_append_left _ (fractionText_lt (by omega) (by omega) _ _)

theorem isoformat_lt {t u : DateTime} (less : t.wall < u.wall) : t.isoformat < u.isoformat := by
  rw [String.lt_iff, isoformat, isoformat, String.toList_ofList, String.toList_ofList]
  exact isoChars_lt less

/-- In one zone comparing the variable-length texts is comparing the instants. -/
theorem isoformat_lt_iff {t u : DateTime} (zone : t.offset = u.offset) :
    t.isoformat < u.isoformat ↔ t.instant < u.instant := by
  have instants : t.instant < u.instant ↔ t.wall < u.wall := by simp only [instant, zone]; omega
  rw [instants]
  constructor
  · intro text
    by_contra notLess
    rcases Nat.lt_or_ge u.wall t.wall with above | below
    · exact lt_asymm text (isoformat_lt above)
    · have same : t.wall = u.wall := by omega
      simp only [isoformat, isoChars, same, zone] at text
      exact lt_irrefl _ text
  · exact isoformat_lt

theorem isoformat_le_iff {t u : DateTime} (zone : t.offset = u.offset) :
    t.isoformat ≤ u.isoformat ↔ t.instant ≤ u.instant := by
  rw [← not_lt, ← not_lt, isoformat_lt_iff zone.symm]

/-! Equal wall clocks: the texts of the offsets decide. -/

/-- The minutes of an offset's size, and what follows them. -/
def offsetMinutes (minutes : Nat) : List Char := digits 2 (minutes / 60) ++ [':'] ++ digits 2 (minutes % 60)

def offsetRest (micros : Nat) : List Char :=
  if micros = 0 then [] else ':' :: digits 2 (micros / 1000000) ++ fractionText (micros % 1000000)

theorem offsetText_eq (offset : Int) :
    offsetText offset = offsetSign offset ::
      (offsetMinutes (offset.natAbs / 60000000) ++ offsetRest (offset.natAbs % 60000000)) := by
  have hours : offset.natAbs / 1000000 / 3600 = offset.natAbs / 60000000 / 60 := by omega
  have minutes : offset.natAbs / 1000000 / 60 % 60 = offset.natAbs / 60000000 % 60 := by omega
  have seconds : offset.natAbs / 1000000 % 60 = offset.natAbs % 60000000 / 1000000 := by omega
  have micros : offset.natAbs % 60000000 % 1000000 = offset.natAbs % 1000000 := by omega
  simp only [offsetText, offsetSign, offsetMinutes, offsetRest, hours, minutes, seconds, micros, List.append_assoc,
    List.cons_append, List.nil_append]

theorem offsetMinutes_ordered : OrderedText (24 * 60) offsetMinutes := by
  have two := digits_ordered 2
  exact (two.mono_bound (by omega : 24 ≤ 10 ^ 2)).divMod (two.mono_bound (by omega : 60 ≤ 10 ^ 2)) [':'] (by omega)

theorem offsetRest_lt {a b : Nat} (less : a < b) (inside : b < 60000000) : offsetRest a < offsetRest b := by
  have later : b ≠ 0 := by omega
  simp only [offsetRest, later, if_false]
  split
  · exact List.nil_lt_cons _ _
  · refine List.cons_lt_cons_iff.mpr (Or.inr ⟨rfl, ?_⟩)
    rcases Nat.lt_or_ge (a / 1000000) (b / 1000000) with earlier | same
    · exact append_lt_append_of_lt (by simp only [digits_length]) ((digits_ordered 2).mono earlier (by omega)) _ _
    · have equal : a / 1000000 = b / 1000000 := by omega
      have micros : a % 1000000 < b % 1000000 := by omega
      have some : b % 1000000 ≠ 0 := by omega
      rw [equal]
      apply append_lt_append_left
      simp only [fractionText, some, if_false]
      split
      · exact List.nil_lt_cons _ _
      · exact List.cons_lt_cons_iff.mpr (Or.inr ⟨rfl, (digits_ordered 6).mono micros (by omega)⟩)

/-- The offsets of one sign are ordered by their size. -/
theorem offsetText_lt {a b : Int} (sign : a < 0 ↔ b < 0) (less : a.natAbs < b.natAbs)
    (inside : b.natAbs < 86400 * 1000000) : offsetText a < offsetText b := by
  have same : offsetSign a = offsetSign b := by simp only [offsetSign, sign]
  rw [offsetText_eq, offsetText_eq, same]
  refine List.cons_lt_cons_iff.mpr (Or.inr ⟨rfl, ?_⟩)
  rcases Nat.lt_or_ge (a.natAbs / 60000000) (b.natAbs / 60000000) with earlier | later
  · exact append_lt_append_of_lt (offsetMinutes_ordered.width (by omega) (by omega))
      (offsetMinutes_ordered.mono earlier (by omega)) _ _
  · have equal : a.natAbs / 60000000 = b.natAbs / 60000000 := by omega
    rw [equal]
    exact append_lt_append_left _ (offsetRest_lt (by omega) (by omega))

/-- `+` sorts before `-`. -/
theorem offsetText_lt_of_sign {a b : Int} (east : 0 ≤ a) (west : b < 0) : offsetText a < offsetText b := by
  rw [offsetText_eq, offsetText_eq]
  refine List.cons_lt_cons_iff.mpr (Or.inl ?_)
  simp only [offsetSign, west, if_true, if_neg (by omega : ¬ a < 0)]
  decide

theorem isoformat_lt_of_offset {t u : DateTime} (same : t.wall = u.wall) (less : offsetText t.offset < offsetText u.offset) :
    t.isoformat < u.isoformat := by
  rw [String.lt_iff, isoformat, isoformat, String.toList_ofList, String.toList_ofList]
  simp only [isoChars, same]
  exact append_lt_append_left _ less

/-- The wall clocks put two datetimes in the order of their instants; equal wall clocks
do, unless both are of zones east of UTC and the zones differ. -/
structure WallOrdered (t u : DateTime) : Prop where
  earlier : t.wall < u.wall → t.offset - u.offset ≥ t.wall - u.wall
  later : u.wall < t.wall → t.offset - u.offset < t.wall - u.wall
  equal : t.wall = u.wall → t.offset = u.offset ∨ t.offset < 0 ∨ u.offset < 0

theorem WallOrdered.of_zone {t u : DateTime} (zone : t.offset = u.offset) : WallOrdered t u := by
  constructor
  · intro less
    omega
  · intro less
    omega
  · intro _
    exact Or.inl zone

/-- Exactly then comparing the texts is comparing the instants. -/
theorem isoformat_le_agrees (t u : DateTime) :
    (t.isoformat ≤ u.isoformat ↔ t.instant ≤ u.instant) ↔ WallOrdered t u := by
  have insideT := t.offset_lt
  have insideU := u.offset_lt
  rcases Nat.lt_trichotomy t.wall u.wall with less | same | more
  · have text : t.isoformat ≤ u.isoformat := (isoformat_lt less).le
    constructor
    · intro agree
      have point := agree.mp text
      simp only [instant] at point
      exact ⟨fun _ => by omega, fun other => by omega, fun other => by omega⟩
    · intro ordered
      have bound := ordered.earlier less
      exact iff_of_true text (by simp only [instant]; omega)
  · by_cases zone : t.offset = u.offset
    · exact iff_of_true (isoformat_le_iff zone) (WallOrdered.of_zone zone)
    · have decided : (t.offset < 0 ∨ u.offset < 0) ↔ WallOrdered t u := by
        constructor
        · intro west
          exact ⟨fun other => by omega, fun other => by omega, fun _ => Or.inr west⟩
        · intro ordered
          exact (ordered.equal same).resolve_left zone
      rw [← decided]
      have points : t.instant ≤ u.instant ↔ u.offset < t.offset := by simp only [instant]; omega
      rw [points]
      -- the text of the greater offset comes first only where a sign decides, or west of UTC
      by_cases west : t.offset < 0 <;> by_cases west' : u.offset < 0
      · rcases Int.lt_or_gt_of_ne zone with below | above
        · have text := isoformat_lt_of_offset same.symm (offsetText_lt (iff_of_true west' west) (by omega) insideT)
          exact iff_of_true (iff_of_false text.not_ge (by omega)) (Or.inl west)
        · have text := isoformat_lt_of_offset same (offsetText_lt (iff_of_true west west') (by omega) insideU)
          exact iff_of_true (iff_of_true text.le above) (Or.inl west)
      · have text := isoformat_lt_of_offset same.symm (offsetText_lt_of_sign (by omega) west)
        exact iff_of_true (iff_of_false text.not_ge (by omega)) (Or.inl west)
      · have text := isoformat_lt_of_offset same (offsetText_lt_of_sign (by omega) west')
        exact iff_of_true (iff_of_true text.le (by omega)) (Or.inr west')
      · refine iff_of_false ?_ (by omega)
        rcases Int.lt_or_gt_of_ne zone with below | above
        · have text := isoformat_lt_of_offset same (offsetText_lt (iff_of_false west west') (by omega) insideU)
          intro agree
          exact absurd (agree.mp text.le) (by omega)
        · have text := isoformat_lt_of_offset same.symm (offsetText_lt (iff_of_false west' west) (by omega) insideT)
          intro agree
          exact absurd (agree.mpr above) text.not_ge
  · have text : u.isoformat < t.isoformat := isoformat_lt more
    constructor
    · intro agree
      have point : ¬ t.instant ≤ u.instant := fun le => text.not_ge (agree.mpr le)
      simp only [instant] at point
      exact ⟨fun other => by omega, fun _ => by omega, fun other => by omega⟩
    · intro ordered
      have bound := ordered.later more
      exact iff_of_false text.not_ge (by simp only [instant]; omega)

end DateTime

example : (DateTime.utc 63924076800000000 (by decide)).isoformat = "2026-09-04T00:00:00+00:00" := by
  decide

end ReliabilityLab
