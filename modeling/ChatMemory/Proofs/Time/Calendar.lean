import ChatMemory.Time.Calendar
import Mathlib.Tactic.ByContra
import Mathlib.Tactic.SplitIfs

/-!
Dates and day numbers. Main statement: the date with a given day number is a date of the calendar,
and it has that day number.
-/

namespace ChatMemory.Date

def withoutLeapDays (dayOfCycle : Nat) : Nat :=
  dayOfCycle - dayOfCycle / 1460 + dayOfCycle / 36524 - dayOfCycle / 146096

def firstDay (yearOfCycle : Nat) : Nat :=
  365 * yearOfCycle + yearOfCycle / 4 - yearOfCycle / 100

private theorem withoutLeapDays_le {first second : Nat} (before : first ≤ second) :
    withoutLeapDays first ≤ withoutLeapDays second := by
  have perLeapYear : first - first / 1460 ≤ second - second / 1460 := by omega
  have perCentury : first / 36524 - first / 146096 ≤ second / 36524 - second / 146096 := by omega
  have centuries : first / 146096 ≤ first / 36524 ∧ second / 146096 ≤ second / 36524 := by omega
  unfold withoutLeapDays
  omega

private theorem withoutLeapDays_firstDay :
    ∀ year : Fin 400, withoutLeapDays (firstDay year) = 365 * year.val := by
  decide +kernel

private theorem withoutLeapDays_before_firstDay :
    ∀ year : Fin 400, 0 < year.val → withoutLeapDays (firstDay year - 1) < 365 * year.val := by
  decide +kernel

/-- The year that a day of a cycle belongs to. Only the last day of a leap year is its 366th. -/
theorem firstDay_le {dayOfCycle year : Nat} (within : dayOfCycle < 146097)
    (divided : withoutLeapDays dayOfCycle / 365 = year) :
    year < 400 ∧ firstDay year ≤ dayOfCycle ∧ dayOfCycle ≤ firstDay year + 365 ∧
      (dayOfCycle = firstDay year + 365 → isLeapYear (year + 1)) := by
  have few : year < 400 := by
    have last : withoutLeapDays 146096 = 145999 := rfl
    have bounded := withoutLeapDays_le (show dayOfCycle ≤ 146096 by omega)
    omega
  -- The quotient grows with the day, so it is enough to know it on the first day of each year.
  have started : firstDay year ≤ dayOfCycle := by
    by_contra later
    have earlier := withoutLeapDays_le (show dayOfCycle ≤ firstDay year - 1 by omega)
    have positive : 0 < year := by
      rcases Nat.eq_zero_or_pos year with rfl | positive
      · exact absurd (Nat.zero_le _) later
      · exact positive
    have before := withoutLeapDays_before_firstDay ⟨year, few⟩ positive
    simp only at before
    omega
  refine ⟨few, started, ?_⟩
  by_cases last : year = 399
  · subst last
    exact ⟨by simp only [firstDay]; omega, fun _ => rfl⟩
  · have ends : dayOfCycle < firstDay (year + 1) := by
      by_contra later
      have next := withoutLeapDays_firstDay ⟨year + 1, by omega⟩
      have reached := withoutLeapDays_le (show firstDay (year + 1) ≤ dayOfCycle by omega)
      simp only at next
      omega
    simp only [firstDay] at ends ⊢
    refine ⟨by omega, fun full => ?_⟩
    have century : year / 100 ≤ (year + 1) / 100 := by omega
    have quarter : (year + 1) / 4 = year / 4 + 1 := by omega
    have sameCentury : (year + 1) / 100 = year / 100 := by omega
    simp only [isLeapYear, Bool.and_eq_true, Bool.or_eq_true, beq_iff_eq, bne_iff_ne]
    omega

private theorem month_of_dayOfYear {dayOfYear month : Nat} (within : dayOfYear ≤ 365)
    (divided : (5 * dayOfYear + 2) / 153 = month) :
    month ≤ 11 ∧ (153 * month + 2) / 5 ≤ dayOfYear ∧
      dayOfYear < (153 * (month + 1) + 2) / 5 := by
  omega

/-- Where a day is: its cycle, the year of the cycle, the day of the year and the month. -/
structure IsAt (number cycle : Int) (year dayOfYear month : Nat) : Prop where
  year_lt : year < 400
  day_le : dayOfYear ≤ 365
  leap : dayOfYear = 365 → isLeapYear (cycle * 400 + year + 1)
  number_eq : number = 146097 * cycle + firstDay year + dayOfYear
  month_le : month ≤ 11
  started : (153 * month + 2) / 5 ≤ dayOfYear
  ended : dayOfYear < (153 * (month + 1) + 2) / 5
  date_eq : ofDayNumber number =
    if month < 10 then ⟨cycle * 400 + year, month + 3, dayOfYear - (153 * month + 2) / 5 + 1⟩
    else ⟨cycle * 400 + year + 1, month - 9, dayOfYear - (153 * month + 2) / 5 + 1⟩

private theorem exists_isAt (number : Int) :
    ∃ cycle year dayOfYear month, IsAt number cycle year dayOfYear month := by
  have within : (number % 146097).toNat < 146097 := by omega
  rcases firstDay_le within rfl with ⟨few, started, ended, leap⟩
  have day_le : (number % 146097).toNat - firstDay _ ≤ 365 := Nat.sub_le_iff_le_add'.mpr ended
  have month := month_of_dayOfYear day_le rfl
  refine ⟨number / 146097, _, _, _, few, day_le, ?_, ?_, month.1, month.2.1, month.2.2, rfl⟩
  · intro full
    have leap := leap (by omega)
    simp only [isLeapYear, Bool.and_eq_true, Bool.or_eq_true, beq_iff_eq, bne_iff_ne] at leap ⊢
    omega
  · omega

@[simp] theorem dayNumber_ofDayNumber (number : Int) : (ofDayNumber number).dayNumber = number := by
  rcases exists_isAt number with ⟨cycle, year, dayOfYear, month, place⟩
  have few := place.year_lt
  have monthFew := place.month_le
  have started := place.started
  rw [place.date_eq, place.number_eq]
  unfold firstDay
  split_ifs with early
  · have notFirst : ¬month + 3 ≤ 2 := by omega
    simp only [dayNumber, notFirst, if_false, Nat.add_sub_cancel]
    omega
  · have first : month - 9 ≤ 2 := by omega
    have again : month - 9 + 9 = month := by omega
    simp only [dayNumber, first, if_true, again, Int.add_sub_cancel]
    omega

private theorem monthLength_le {month : Nat} (early : month < 10) (year : Int) :
    (153 * (month + 1) + 2) / 5 ≤ (153 * month + 2) / 5 + daysInMonth year (month + 3) := by
  simp only [daysInMonth, beq_iff_eq, Bool.or_eq_true]
  split_ifs <;> omega

private theorem IsAt.day_le_daysInMonth {number cycle : Int} {year dayOfYear month : Nat}
    (place : IsAt number cycle year dayOfYear month) (late : 10 ≤ month) :
    dayOfYear - (153 * month + 2) / 5 + 1 ≤
      daysInMonth (cycle * 400 + year + 1) (month - 9) := by
  have within := place.day_le
  have ended := place.ended
  have monthFew := place.month_le
  rcases (show month = 10 ∨ month = 11 by omega) with rfl | rfl
  · have january : daysInMonth (cycle * 400 + year + 1) (10 - 9) = 31 := rfl
    omega
  · have february : daysInMonth (cycle * 400 + year + 1) (11 - 9) =
        if isLeapYear (cycle * 400 + year + 1) then 29 else 28 := rfl
    rw [february]
    by_cases full : dayOfYear = 365
    · rw [if_pos (place.leap full)]
      omega
    · split_ifs <;> omega

@[simp] theorem isValid_ofDayNumber (number : Int) : (ofDayNumber number).isValid = true := by
  rcases exists_isAt number with ⟨cycle, year, dayOfYear, month, place⟩
  have monthFew := place.month_le
  have started := place.started
  have ended := place.ended
  rw [place.date_eq]
  split_ifs with early
  · have length := monthLength_le early (cycle * 400 + year)
    simp only [isValid, Bool.and_eq_true, decide_eq_true_eq]
    omega
  · have days := place.day_le_daysInMonth (by omega)
    simp only [isValid, Bool.and_eq_true, decide_eq_true_eq]
    omega

end ChatMemory.Date
