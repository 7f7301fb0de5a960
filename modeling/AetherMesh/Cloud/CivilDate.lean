import AetherMesh.Library.Calendar
import Mathlib.Tactic.IntervalCases

/-!
The date of a signed request, computed from the seconds since the epoch. Years are counted from
March, so that the leap day is the last day of a year. Every intermediate value has to fit 64 bits.
-/

namespace AetherMesh

def asI64 (value : Int) : Option Int :=
  if -2 ^ 63 ≤ value ∧ value < 2 ^ 63 then some value else none

def castU32 (value : Int) : Option Nat :=
  if 0 ≤ value ∧ value < 2 ^ 32 then some value.toNat else none

def yearOfEra (dayOfEra : Int) : Option Int := do
  let elapsed ← asI64 (dayOfEra - dayOfEra.tdiv 1460)
  let elapsed ← asI64 (elapsed + dayOfEra.tdiv 36524)
  let elapsed ← asI64 (elapsed - dayOfEra.tdiv 146096)
  return elapsed.tdiv 365

def dayOfYear (dayOfEra yearOfEra : Int) : Option Int := do
  let days ← asI64 (365 * yearOfEra)
  let days ← asI64 (days + yearOfEra.tdiv 4)
  let days ← asI64 (days - yearOfEra.tdiv 100)
  asI64 (dayOfEra - days)

def monthAndDay (dayOfYear : Int) : Option (Nat × Nat) := do
  let fifths ← asI64 (5 * dayOfYear)
  let fifths ← asI64 (fifths + 2)
  let mp := fifths.tdiv 153
  let before ← asI64 (153 * mp)
  let before ← asI64 (before + 2)
  let day ← asI64 (dayOfYear - before.tdiv 5)
  let day ← asI64 (day + 1)
  let day ← castU32 day
  let month ← if mp < 10 then asI64 (mp + 3) else asI64 (mp - 9)
  let month ← castU32 month
  return (month, day)

/-- Nothing is returned when a value overflows or is changed by a cast. -/
def civilFromDays (days : Int) : Option (Int × Nat × Nat) := do
  let z ← asI64 (days + 719468)
  let era := z / 146097
  let dayOfEra := z % 146097
  let yearOfEra ← yearOfEra dayOfEra
  let earlier ← asI64 (era * 400)
  let year ← asI64 (yearOfEra + earlier)
  let dayOfYear ← dayOfYear dayOfEra yearOfEra
  let (month, day) ← monthAndDay dayOfYear
  let year ← if month ≤ 2 then asI64 (year + 1) else some year
  return (year, month, day)

def padded (width value : Nat) : String :=
  String.ofList (List.leftpad width '0' (Nat.toDigits 10 value))

def timestamps (seconds : Nat) : Option (String × String) := do
  let days := seconds / 86400
  let timeOfDay := seconds % 86400
  let (year, month, day) ← civilFromDays days
  let date := padded 4 year.toNat ++ padded 2 month ++ padded 2 day
  return (date, date ++ "T" ++ padded 2 (timeOfDay / 3600) ++
    padded 2 (timeOfDay % 3600 / 60) ++ padded 2 (timeOfDay % 60) ++ "Z")

open Calendar

/-- A day within 400 years from a first of March: the century, the four years, the year and the day
in it. The last day of all is left out. -/
theorem exists_cycle {dayOfEra : Int} (first : 0 ≤ dayOfEra) (last : dayOfEra < 146096) :
    ∃ century cycle year day : Int, dayOfEra = 36524 * century + 1461 * cycle + 365 * year + day ∧
      (0 ≤ century ∧ century ≤ 3) ∧ (0 ≤ cycle ∧ cycle ≤ 24) ∧ (0 ≤ year ∧ year ≤ 3) ∧
      0 ≤ day ∧ (day ≤ 364 ∨ day = 365 ∧ year = 3 ∧ cycle ≤ 23) := by
  have inCentury : 0 ≤ dayOfEra % 36524 ∧ dayOfEra % 36524 < 36524 := by omega
  have whole : dayOfEra = 36524 * (dayOfEra / 36524) + dayOfEra % 36524 := by omega
  have centuries : 0 ≤ dayOfEra / 36524 ∧ dayOfEra / 36524 ≤ 3 := by omega
  generalize dayOfEra % 36524 = rest at whole inCentury
  have inCycle : 0 ≤ rest % 1461 ∧ rest % 1461 < 1461 := by omega
  have part : rest = 1461 * (rest / 1461) + rest % 1461 := by omega
  have cycles : 0 ≤ rest / 1461 ∧ (rest / 1461 ≤ 23 ∨ rest / 1461 = 24 ∧ rest % 1461 < 1460) := by
    omega
  generalize rest % 1461 = left at part inCycle cycles
  by_cases leap : left = 1460
  · exact ⟨dayOfEra / 36524, rest / 1461, 3, 365, by omega⟩
  · exact ⟨dayOfEra / 36524, rest / 1461, left / 365, left % 365, by omega⟩

theorem asI64_fits {value : Int} (fits : -2 ^ 63 ≤ value ∧ value < 2 ^ 63) :
    asI64 value = some value :=
  if_pos fits

theorem castU32_fits {value : Int} (fits : 0 ≤ value ∧ value < 2 ^ 32) :
    castU32 value = some value.toNat :=
  if_pos fits

def daysOfYears (year : Int) : Int := 365 * year + year / 4 - year / 100

theorem yearOfEra_spec {dayOfEra : Int} (first : 0 ≤ dayOfEra) (last : dayOfEra < 146097) :
    ∃ year, yearOfEra dayOfEra = some year ∧ 0 ≤ year ∧ year ≤ 399 ∧
      0 ≤ dayOfEra - daysOfYears year ∧
      (dayOfEra - daysOfYears year ≤ 364 ∨ dayOfEra - daysOfYears year = 365 ∧
        (year + 1) % 4 = 0 ∧ ((year + 1) % 100 ≠ 0 ∨ (year + 1) % 400 = 0)) := by
  have computed : yearOfEra dayOfEra =
      some ((dayOfEra - dayOfEra / 1460 + dayOfEra / 36524 - dayOfEra / 146096) / 365) := by
    simp only [yearOfEra, Int.tdiv_eq_ediv_of_nonneg first]
    rw [asI64_fits (by omega), Option.bind_eq_bind, Option.bind_some, asI64_fits (by omega),
      Option.bind_some, asI64_fits (by omega), Option.bind_some,
      Int.tdiv_eq_ediv_of_nonneg (by omega)]
    rfl
  refine ⟨_, computed, ?_⟩
  unfold daysOfYears
  by_cases final : dayOfEra = 146096
  · subst final
    decide
  · obtain ⟨century, cycle, year, day, whole, centuries, cycles, years, days⟩ :=
      exists_cycle first (by omega)
    have leaps : dayOfEra / 1460 = 25 * century + cycle ∧ day ≤ 364 ∨
        dayOfEra / 1460 = 25 * century + cycle + 1 ∧ year = 3 ∧ 1 ≤ day := by
      omega
    have full : dayOfEra / 36524 = century ∧ dayOfEra / 146096 = 0 := by omega
    have result : (dayOfEra - dayOfEra / 1460 + dayOfEra / 36524 - dayOfEra / 146096) / 365 =
        100 * century + 4 * cycle + year := by
      rw [full.1, full.2]
      omega
    have fours : (100 * century + 4 * cycle + year) / 4 = 25 * century + cycle := by omega
    have hundreds : (100 * century + 4 * cycle + year) / 100 = century := by omega
    rw [result, fours, hundreds]
    omega

theorem dayOfYear_eq {dayOfEra year : Int} (first : 0 ≤ dayOfEra) (last : dayOfEra < 146097)
    (lower : 0 ≤ year) (upper : year ≤ 399) :
    dayOfYear dayOfEra year = some (dayOfEra - daysOfYears year) := by
  simp only [dayOfYear, Int.tdiv_eq_ediv_of_nonneg lower, daysOfYears]
  rw [asI64_fits (by omega), Option.bind_eq_bind, Option.bind_some, asI64_fits (by omega),
    Option.bind_some, asI64_fits (by omega), Option.bind_some, asI64_fits (by omega)]

theorem monthAndDay_eq {day mp : Int} (first : 0 ≤ day) (last : day ≤ 365)
    (month : mp = (5 * day + 2) / 153) :
    monthAndDay day = some ((if mp < 10 then mp + 3 else mp - 9).toNat,
      (day - (153 * mp + 2) / 5 + 1).toNat) := by
  have fifths : asI64 (5 * day) = some (5 * day) := asI64_fits (by omega)
  have more : asI64 (5 * day + 2) = some (5 * day + 2) := asI64_fits (by omega)
  have divided : (5 * day + 2).tdiv 153 = mp := by
    rw [Int.tdiv_eq_ediv_of_nonneg (by omega), month]
  have bounds : 0 ≤ mp ∧ mp ≤ 11 := by omega
  have before : asI64 (153 * mp) = some (153 * mp) := asI64_fits (by omega)
  have rounded : asI64 (153 * mp + 2) = some (153 * mp + 2) := asI64_fits (by omega)
  have offset : (153 * mp + 2).tdiv 5 = (153 * mp + 2) / 5 :=
    Int.tdiv_eq_ediv_of_nonneg (by omega)
  have within : 0 ≤ day - (153 * mp + 2) / 5 ∧ day - (153 * mp + 2) / 5 ≤ 365 := by omega
  have shifted : asI64 (day - (153 * mp + 2) / 5) = some (day - (153 * mp + 2) / 5) :=
    asI64_fits (by omega)
  have counted : asI64 (day - (153 * mp + 2) / 5 + 1) = some (day - (153 * mp + 2) / 5 + 1) :=
    asI64_fits (by omega)
  have cast : castU32 (day - (153 * mp + 2) / 5 + 1) =
      some (day - (153 * mp + 2) / 5 + 1).toNat := castU32_fits (by omega)
  simp only [monthAndDay, fifths, more, divided, before, rounded, offset, shifted, counted, cast,
    Option.bind_eq_bind, Option.bind_some]
  split
  · rw [asI64_fits (by omega), Option.bind_some, castU32_fits (by omega)]
    rfl
  · rw [asI64_fits (by omega), Option.bind_some, castU32_fits (by omega)]
    rfl

/-- The days before a month counted from March, and its length before January. -/
theorem months_from_march {mp : Nat} (year : Int) (before : mp < 10) :
    daysBeforeMonth year (mp + 3) = yearLength year - 306 + (153 * mp + 2) / 5 ∧
      monthLength year (mp + 3) = (153 * (mp + 1) + 2) / 5 - (153 * mp + 2) / 5 := by
  constructor
  · interval_cases mp <;>
      simp only [daysBeforeMonth, Finset.sum_range_succ, Finset.sum_range_zero, monthLength,
        yearLength] <;>
      split <;> rfl
  · interval_cases mp <;> rfl

/-- A day of a year that starts in March, as a date. -/
theorem exists_date {year day : Int} {mp : Nat} (first : 0 ≤ day)
    (last : day ≤ 364 ∨ day = 365 ∧ isLeap (year + 1) = true)
    (month : (mp : Int) = (5 * day + 2) / 153) :
    ∃ date : Date, date.year = (if mp < 10 then year else year + 1) ∧
      date.month = (if mp < 10 then mp + 3 else mp - 9) ∧
      (date.day : Int) = day - (153 * mp + 2) / 5 + 1 ∧
      date.number = daysBeforeYear (year + 1) - 306 + day := by
  have before := daysBeforeYear_succ year
  by_cases same : mp < 10
  · obtain ⟨days, length⟩ := months_from_march year same
    refine ⟨⟨year, mp + 3, (day - (153 * mp + 2) / 5 + 1).toNat, by omega, by omega, by omega, ?_⟩,
      (if_pos same).symm, (if_pos same).symm, ?_, ?_⟩
    · rw [length]
      omega
    · exact Int.toNat_of_nonneg (by omega)
    · simp only [Date.number, days]
      omega
  · obtain rfl | rfl : mp = 10 ∨ mp = 11 := by omega
    · refine ⟨⟨year + 1, 1, (day - 305).toNat, by decide, by decide, by omega, ?_⟩, rfl, rfl, ?_,
        ?_⟩
      · have january : monthLength (year + 1) 1 = 31 := rfl
        omega
      · simp only
        omega
      · simp only [Date.number, daysBeforeMonth_one]
        omega
    · refine ⟨⟨year + 1, 2, (day - 336).toNat, by decide, by decide, by omega, ?_⟩, rfl, rfl, ?_,
        ?_⟩
      · have february : monthLength (year + 1) 2 = if isLeap (year + 1) then 29 else 28 := rfl
        rw [february]
        split
        · omega
        · rename_i common
          have short : day ≤ 364 := last.resolve_right fun leap => common leap.2
          omega
      · simp only
        omega
      · have january : daysBeforeMonth (year + 1) 2 = 31 := rfl
        simp only [Date.number, january]
        omega

theorem civilFromDays_spec (days : Int) (lower : 0 ≤ days) (upper : days ≤ 2 ^ 50) :
    ∃ date : Date, civilFromDays days = some (date.year, date.month, date.day) ∧
      date.number = days := by
  have era : 0 ≤ (days + 719468) % 146097 ∧ (days + 719468) % 146097 < 146097 := by omega
  obtain ⟨year, years, yearLower, yearUpper, dayLower, dayUpper⟩ := yearOfEra_spec era.1 era.2
  generalize dayEq : (days + 719468) % 146097 - daysOfYears year = day at dayLower dayUpper
  obtain ⟨mp, month⟩ : ∃ mp : Nat, (mp : Int) = (5 * day + 2) / 153 :=
    ⟨_, Int.toNat_of_nonneg (by omega)⟩
  have last : day ≤ 364 ∨ day = 365 ∧
      isLeap (year + (days + 719468) / 146097 * 400 + 1) = true := by
    simp only [isLeap, decide_eq_true_eq]
    omega
  obtain ⟨date, yearEq, monthEq, dayOf, number⟩ := exists_date dayLower last month
  refine ⟨date, ?_, ?_⟩
  · have moved : asI64 (days + 719468) = some (days + 719468) := asI64_fits (by omega)
    have earlier : asI64 ((days + 719468) / 146097 * 400) =
        some ((days + 719468) / 146097 * 400) := asI64_fits (by omega)
    have whole : asI64 (year + (days + 719468) / 146097 * 400) =
        some (year + (days + 719468) / 146097 * 400) := asI64_fits (by omega)
    have next : asI64 (year + (days + 719468) / 146097 * 400 + 1) =
        some (year + (days + 719468) / 146097 * 400 + 1) := asI64_fits (by omega)
    have small : day ≤ 365 := by omega
    simp only [civilFromDays, moved, years, earlier, whole, next, Option.bind_eq_bind,
      Option.bind_some, dayOfYear_eq era.1 era.2 yearLower yearUpper, dayEq,
      monthAndDay_eq dayLower small month]
    have counted : (if (mp : Int) < 10 then (mp : Int) + 3 else mp - 9).toNat = date.month := by
      rw [monthEq]
      split <;> split <;> omega
    rw [counted]
    have count : date.day = (day - (153 * mp + 2) / 5 + 1).toNat := by omega
    rw [← count]
    by_cases early : mp < 10
    · rw [if_pos early] at monthEq yearEq
      rw [if_neg (by omega), yearEq]
      rfl
    · rw [if_neg early] at monthEq yearEq
      rw [if_pos (by omega), yearEq]
      rfl
  · rw [number, daysBeforeYear_eq]
    simp only [daysOfYears, leapsBefore] at dayEq ⊢
    omega

variable {days : Nat}

/-- The date is the only one with the number of days since the epoch, the next number of days
is that of the next date, and nothing overflows. -/
theorem civil_from_days (within : days ≤ (2 ^ 64 - 1) / 86400) :
    ∃ date : Date, civilFromDays days = some (date.year, date.month, date.day) ∧
      date.number = days ∧ (∀ other : Date, other.number = days → other = date) ∧
      civilFromDays (days + 1) = some (date.next.year, date.next.month, date.next.day) := by
  obtain ⟨date, found, number⟩ := civilFromDays_spec days (by omega) (by omega)
  obtain ⟨later, next, after⟩ := civilFromDays_spec (days + 1) (by omega) (by omega)
  have same : later = date.next := Date.number_injective (by rw [after, Date.number_next, number])
  rw [same] at next
  refine ⟨date, found, number, fun other equal => ?_, next⟩
  exact Date.number_injective (equal.trans number.symm)

theorem leap_day : ∃ date : Date, civilFromDays 18321 = some (date.year, date.month, date.day) ∧
    date.number = 18321 ∧ (∀ other : Date, other.number = 18321 → other = date) ∧
    civilFromDays (18321 + 1) = some (date.next.year, date.next.month, date.next.day) :=
  @civil_from_days 18321 (by decide)

/-- Every time since the epoch gets the text of its date and its time of day. -/
theorem timestamps_eq {seconds : Nat} (within : seconds < 2 ^ 64) :
    ∃ date : Date, date.number = seconds / 86400 ∧
      timestamps seconds = some
        (padded 4 date.year.toNat ++ padded 2 date.month ++ padded 2 date.day,
          padded 4 date.year.toNat ++ padded 2 date.month ++ padded 2 date.day ++ "T" ++
            padded 2 (seconds % 86400 / 3600) ++ padded 2 (seconds % 86400 % 3600 / 60) ++
            padded 2 (seconds % 86400 % 60) ++ "Z") := by
  obtain ⟨date, found, number⟩ :=
    civilFromDays_spec (seconds / 86400 : Nat) (by omega) (by omega)
  refine ⟨date, number, ?_⟩
  rw [timestamps, found]
  rfl

end AetherMesh
