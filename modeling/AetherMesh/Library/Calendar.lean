import Mathlib.Algebra.BigOperators.Group.Finset.Basic
import Mathlib.Algebra.Order.BigOperators.Group.Finset

/-!
The proleptic Gregorian calendar: leap years, lengths of months, and the number of days from the
first of January 1970 to a date, counted year by year and month by month.
-/

namespace Calendar

def isLeap (year : Int) : Bool := year % 4 = 0 ∧ (year % 100 ≠ 0 ∨ year % 400 = 0)

def monthLength (year : Int) : Nat → Int
  | 2 => if isLeap year then 29 else 28
  | 4 | 6 | 9 | 11 => 30
  | _ => 31

def yearLength (year : Int) : Int := if isLeap year then 366 else 365

def daysBeforeYear (year : Int) : Int :=
  (∑ since ∈ Finset.range (year - 1970).toNat, yearLength (1970 + since)) -
    ∑ since ∈ Finset.range (1970 - year).toNat, yearLength (year + since)

def daysBeforeMonth (year : Int) (month : Nat) : Int :=
  ∑ before ∈ Finset.range (month - 1), monthLength year (before + 1)

structure Date where
  year : Int
  month : Nat
  day : Nat
  month_pos : 1 ≤ month
  month_le : month ≤ 12
  day_pos : 1 ≤ day
  day_le : day ≤ monthLength year month
deriving DecidableEq

namespace Date

def number (date : Date) : Int :=
  daysBeforeYear date.year + daysBeforeMonth date.year date.month + (date.day - 1)

end Date

variable {year : Int} {month : Nat}

theorem daysBeforeYear_succ (year : Int) :
    daysBeforeYear (year + 1) = daysBeforeYear year + yearLength year := by
  unfold daysBeforeYear
  by_cases since : 1970 ≤ year
  · have after : (year + 1 - 1970).toNat = (year - 1970).toNat + 1 := by omega
    have here : (1970 + (year - 1970).toNat : Int) = year := by omega
    have none : (1970 - year).toNat = 0 := by omega
    have later : (1970 - (year + 1)).toNat = 0 := by omega
    rw [after, Finset.sum_range_succ, here, none, later]
    simp only [Finset.range_zero, Finset.sum_empty, Int.sub_zero]
  · have before : (1970 - year).toNat = (1970 - (year + 1)).toNat + 1 := by omega
    have none : (year - 1970).toNat = 0 := by omega
    have later : (year + 1 - 1970).toNat = 0 := by omega
    have shifted (years : Nat) : year + (years + 1 : Nat) = year + 1 + years := by omega
    rw [before, Finset.sum_range_succ', none, later]
    simp only [Finset.range_zero, Finset.sum_empty, shifted, Int.ofNat_zero, Int.add_zero]
    omega

def leapsBefore (year : Int) : Int := (year - 1) / 4 - (year - 1) / 100 + (year - 1) / 400

theorem yearLength_eq (year : Int) :
    yearLength year = 365 + leapsBefore (year + 1) - leapsBefore year := by
  simp only [yearLength, isLeap, leapsBefore, decide_eq_true_eq]
  split
  · omega
  · omega

theorem daysBeforeYear_eq (year : Int) :
    daysBeforeYear year = 365 * (year - 1970) + leapsBefore year - leapsBefore 1970 := by
  induction year using Int.inductionOn' (b := 1970) with
  | zero => simp [daysBeforeYear]
  | succ year _ ih =>
      rw [daysBeforeYear_succ, ih, yearLength_eq]
      omega
  | pred year _ ih =>
      have step := daysBeforeYear_succ (year - 1)
      rw [yearLength_eq, Int.sub_add_cancel] at step
      omega

theorem daysBeforeMonth_succ (positive : 1 ≤ month) :
    daysBeforeMonth year (month + 1) = daysBeforeMonth year month + monthLength year month := by
  obtain ⟨before, rfl⟩ := Nat.exists_eq_add_of_le' positive
  exact Finset.sum_range_succ _ _

theorem daysBeforeMonth_one : daysBeforeMonth year 1 = 0 := rfl

theorem monthLength_pos (year : Int) (month : Nat) : 28 ≤ monthLength year month := by
  unfold monthLength
  split
  · split <;> decide
  · decide
  · decide
  · decide
  · decide
  · decide

theorem daysBeforeMonth_thirteen (year : Int) : daysBeforeMonth year 13 = yearLength year := by
  simp only [daysBeforeMonth, Finset.sum_range_succ, Finset.sum_range_zero, monthLength, yearLength]
  split <;> rfl

theorem daysBeforeMonth_le (year : Int) {other : Nat} (positive : 1 ≤ month) (later : month < other) :
    daysBeforeMonth year month + monthLength year month ≤ daysBeforeMonth year other := by
  induction other, later using Nat.le_induction with
  | base => exact (daysBeforeMonth_succ positive).ge
  | succ other later ih =>
      have more := monthLength_pos year other
      rw [daysBeforeMonth_succ (by omega)]
      omega

theorem daysBeforeYear_lt {other : Int} (later : year < other) :
    daysBeforeYear year + yearLength year ≤ daysBeforeYear other := by
  rw [← daysBeforeYear_succ, daysBeforeYear_eq, daysBeforeYear_eq]
  unfold leapsBefore
  omega

namespace Date

variable {date other : Date}

def next (date : Date) : Date :=
  if within : date.day < monthLength date.year date.month then
    { date with
      day := date.day + 1
      day_pos := by have positive := date.day_pos; omega
      day_le := within }
  else if more : date.month < 12 then
    { date with
      month := date.month + 1
      day := 1
      month_pos := by omega
      month_le := more
      day_pos := by decide
      day_le := by have long := monthLength_pos date.year (date.month + 1); omega }
  else
    { year := date.year + 1
      month := 1
      day := 1
      month_pos := by decide
      month_le := by decide
      day_pos := by decide
      day_le := by have long := monthLength_pos (date.year + 1) 1; omega }

theorem number_next (date : Date) : date.next.number = date.number + 1 := by
  have first := date.day_pos
  have last := date.day_le
  unfold next
  split
  · simp only [number]
    omega
  · split
    · simp only [number, daysBeforeMonth_succ date.month_pos]
      omega
    · have december : date.month = 12 := by have bound := date.month_le; omega
      have whole := daysBeforeMonth_thirteen date.year
      rw [daysBeforeMonth_succ (by decide), ← december] at whole
      simp only [number, daysBeforeYear_succ, daysBeforeMonth_one]
      omega

theorem number_bounds (date : Date) : daysBeforeYear date.year ≤ date.number ∧
    date.number < daysBeforeYear date.year + yearLength date.year ∧
    daysBeforeYear date.year + daysBeforeMonth date.year date.month ≤ date.number ∧
    date.number < daysBeforeYear date.year + daysBeforeMonth date.year date.month +
      monthLength date.year date.month := by
  have first := date.day_pos
  have last := date.day_le
  have start : 0 ≤ daysBeforeMonth date.year date.month := by
    refine Finset.sum_nonneg fun before _ => ?_
    exact (by decide : (0 : Int) ≤ 28).trans (monthLength_pos _ _)
  have stop := daysBeforeMonth_le date.year date.month_pos
    (Nat.lt_succ_of_le date.month_le)
  rw [daysBeforeMonth_thirteen] at stop
  rw [number]
  omega

theorem number_injective (same : date.number = other.number) : date = other := by
  obtain ⟨lower, upper, starts, stops⟩ := date.number_bounds
  obtain ⟨otherLower, otherUpper, otherStarts, otherStops⟩ := other.number_bounds
  have years : date.year = other.year := by
    rcases lt_trichotomy date.year other.year with before | equal | after
    · have apart := daysBeforeYear_lt before
      omega
    · exact equal
    · have apart := daysBeforeYear_lt after
      omega
  have months : date.month = other.month := by
    rw [years] at starts stops
    rcases lt_trichotomy date.month other.month with before | equal | after
    · have apart := daysBeforeMonth_le other.year date.month_pos before
      omega
    · exact equal
    · have apart := daysBeforeMonth_le other.year other.month_pos after
      omega
  have days : date.day = other.day := by
    rw [number, number, years, months] at same
    omega
  cases date
  cases other
  simp only [mk.injEq]
  exact ⟨years, months, days⟩

end Date

end Calendar
