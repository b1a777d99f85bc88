import Nightdrop.Diag.Channel

/-! The date in front of a line is the calendar's, day after day. -/

namespace Nightdrop
namespace Diag

/-- A year of 366 days. -/
def leap (year : Nat) : Bool := year % 4 = 0 ∧ (year % 100 ≠ 0 ∨ year % 400 = 0)

/-- How many days a month has. -/
def monthDays (leapYear : Bool) (month : Nat) : Nat :=
  if month = 2 then (if leapYear then 29 else 28)
  else if month ∈ [4, 6, 9, 11] then 30
  else 31

/-- A day that the calendar has. -/
def Date.Valid (d : Date) : Prop := 1 ≤ d.month ∧ d.month ≤ 12 ∧ 1 ≤ d.day ∧ d.day ≤ monthDays (leap d.year) d.month

/-- The day after another. -/
def Date.next (d : Date) : Date :=
  if d.day < monthDays (leap d.year) d.month then ⟨d.year, d.month, d.day + 1⟩
  else if d.month < 12 then ⟨d.year, d.month + 1, 1⟩
  else ⟨d.year + 1, 1, 1⟩

/-- The days of an era before its year `yoe`, where years begin in March. -/
def yearStart (yoe : Nat) : Nat := 365 * yoe + yoe / 4 - yoe / 100

/-- How many days such a year has: the leap day is its last. -/
def yearDays (yoe : Nat) : Nat := if leap (yoe + 1) then 366 else 365

theorem yearDays_pos (yoe : Nat) : 0 < yearDays yoe := by
  unfold yearDays
  split <;> omega

/-- The year of a day of an era, as the conversion computes it. -/
def yearOf (doe : Nat) : Nat := (doe - doe / 1460 + doe / 36524 - doe / 146096) / 365

/-- The month of a day of such a year. -/
def monthOf (doy : Nat) : Nat := if (5 * doy + 2) / 153 < 10 then (5 * doy + 2) / 153 + 3 else (5 * doy + 2) / 153 - 9

/-- The day of its month. -/
def dayOf (doy : Nat) : Nat := doy - (153 * ((5 * doy + 2) / 153) + 2) / 5 + 1

/-- The date of a day of a year of an era. -/
def dateOf (era yoe doy : Nat) : Date :=
  ⟨yoe + era * 400 + (if monthOf doy ≤ 2 then 1 else 0), monthOf doy, dayOf doy⟩

theorem yearStart_succ (yoe : Nat) (within : yoe < 399) : yearStart (yoe + 1) = yearStart yoe + yearDays yoe := by
  have each : ∀ y < 399, yearStart (y + 1) = yearStart y + yearDays y := by decide +kernel
  exact each yoe within

/-- The year does not go back as days go on. -/
theorem yearOf_mono {first last : Nat} (order : first ≤ last) : yearOf first ≤ yearOf last := by
  -- Day by day: where one is added, no more than one is taken off.
  induction last, order using Nat.le_induction with
  | base => exact Nat.le_refl _
  | succ day _ ih =>
    refine Nat.le_trans ih ?_
    unfold yearOf
    refine Nat.div_le_div_right ?_
    omega

/-- Each day of a year of an era is of that year. -/
theorem yearOf_start {yoe doy : Nat} (within : yoe < 400) (inside : doy < yearDays yoe) :
    yearOf (yearStart yoe + doy) = yoe := by
  -- The first and the last day of each year are checked, and those between lie between.
  have ends : ∀ y < 400, yearOf (yearStart y) = y ∧ yearOf (yearStart y + (yearDays y - 1)) = y := by decide +kernel
  obtain ⟨first, last⟩ := ends yoe within
  have low := yearOf_mono (Nat.le_add_right (yearStart yoe) doy)
  have high := yearOf_mono (show yearStart yoe + doy ≤ yearStart yoe + (yearDays yoe - 1) by omega)
  omega

/-- The conversion says the date of a day of a year of an era. -/
theorem civil_of {days era yoe doy : Nat} (within : yoe < 400) (inside : doy < yearDays yoe)
    (whole : days + 719468 = era * 146097 + (yearStart yoe + doy)) : civil days = dateOf era yoe doy := by
  have year := yearOf_start within inside
  -- All the days of an era are fewer than an era takes.
  have room : yearStart yoe + doy < 146097 := by
    have each : ∀ y < 400, yearStart y + yearDays y ≤ 146097 := by decide +kernel
    have fits := each yoe within
    omega
  have era' : (days + 719468) / 146097 = era := by omega
  have doe : (days + 719468) % 146097 = yearStart yoe + doy := by omega
  have doy' : yearStart yoe + doy - (365 * yoe + yoe / 4 - yoe / 100) = doy := by
    have same : 365 * yoe + yoe / 4 - yoe / 100 = yearStart yoe := rfl
    omega
  unfold yearOf at year
  simp only [civil, era', doe, year, doy', dateOf, monthOf, dayOf]
  rfl

/-- The calendar repeats after four hundred years. -/
theorem leap_era (year era : Nat) : leap (year + era * 400) = leap year := by
  have four : (year + era * 400) % 4 = year % 4 := by omega
  have hundred : (year + era * 400) % 100 = year % 100 := by omega
  have cycle : (year + era * 400) % 400 = year % 400 := by omega
  rw [leap, leap, four, hundred, cycle]

/-- Only February asks what year it is, and it lies in the year after the March that its days are counted from. -/
theorem dateOf_monthDays (era yoe doy : Nat) :
    monthDays (leap (dateOf era yoe doy).year) (dateOf era yoe doy).month = monthDays (leap (yoe + 1)) (monthOf doy) := by
  simp only [dateOf]
  by_cases february : monthOf doy = 2
  · have year : yoe + era * 400 + 1 = (yoe + 1) + era * 400 := by omega
    rw [if_pos (by omega), year, leap_era]
  · unfold monthDays
    rw [if_neg february, if_neg february]

/-- The days of a year from March on run through its months. -/
theorem days_run (isLeap : Bool) : ∀ doy < (if isLeap then 366 else 365),
    (1 ≤ monthOf doy ∧ monthOf doy ≤ 12 ∧ 1 ≤ dayOf doy ∧ dayOf doy ≤ monthDays isLeap (monthOf doy))
    ∧ (doy + 1 < (if isLeap then 366 else 365) →
      if dayOf doy < monthDays isLeap (monthOf doy) then monthOf (doy + 1) = monthOf doy ∧ dayOf (doy + 1) = dayOf doy + 1
      else dayOf (doy + 1) = 1 ∧ monthOf doy ≠ 2
        ∧ (if monthOf doy < 12 then monthOf (doy + 1) = monthOf doy + 1 else monthOf (doy + 1) = 1))
    ∧ (doy + 1 = (if isLeap then 366 else 365) → monthOf doy = 2 ∧ dayOf doy = monthDays isLeap 2) := by
  cases isLeap <;> decide +kernel

theorem dateOf_valid {era yoe doy : Nat} (inside : doy < yearDays yoe) : (dateOf era yoe doy).Valid := by
  obtain ⟨⟨first, last, begins, ends⟩, _⟩ := days_run (leap (yoe + 1)) doy inside
  refine ⟨first, last, begins, ?_⟩
  rw [dateOf_monthDays]
  exact ends

/-- Within a year that begins in March, the next day is the calendar's. -/
theorem dateOf_next {era yoe doy : Nat} (inside : doy + 1 < yearDays yoe) :
    dateOf era yoe (doy + 1) = (dateOf era yoe doy).next := by
  obtain ⟨⟨first, last, _, _⟩, run, _⟩ := days_run (leap (yoe + 1)) doy (by unfold yearDays at inside; omega)
  have step := run inside
  rw [Date.next, dateOf_monthDays]
  have day : (dateOf era yoe doy).day = dayOf doy := rfl
  have month : (dateOf era yoe doy).month = monthOf doy := rfl
  rw [day, month]
  split
  · rename_i within
    rw [if_pos within] at step
    simp only [dateOf, step.1, step.2]
  · rename_i ended
    rw [if_neg ended] at step
    obtain ⟨one, notFebruary, turn⟩ := step
    split
    · rename_i early
      rw [if_pos early] at turn
      simp only [dateOf, one, turn]
      -- January goes on to February in the same year, and the months from March to November do.
      congr 2
      split <;> split <;> omega
    · rename_i december
      rw [if_neg december] at turn
      -- The year begins in January.
      have late : ¬ monthOf doy ≤ 2 := by omega
      simp [dateOf, one, turn, late]

/-- The last day of February is followed by the first of March, of the next year that begins so. -/
theorem dateOf_turn {era yoe doy : Nat} (ends : doy + 1 = yearDays yoe) :
    (dateOf era yoe doy).next = ⟨yoe + 1 + era * 400, 3, 1⟩ := by
  obtain ⟨_, _, turn⟩ := days_run (leap (yoe + 1)) doy (by unfold yearDays at ends; omega)
  obtain ⟨february, last⟩ := turn ends
  rw [Date.next, dateOf_monthDays]
  have day : (dateOf era yoe doy).day = dayOf doy := rfl
  have month : (dateOf era yoe doy).month = monthOf doy := rfl
  -- February has run out, and the month after it is of the same year.
  rw [day, month, february, last, if_neg (Nat.lt_irrefl _), if_pos (by decide)]
  simp only [dateOf, february]
  congr 1
  rw [if_pos (by decide)]
  omega

/-- Every day is a day of a year of an era. -/
theorem day_of_era (days : Nat) : ∃ era yoe doy, yoe < 400 ∧ doy < yearDays yoe
    ∧ days + 719468 = era * 146097 + (yearStart yoe + doy) := by
  induction days with
  | zero => exact ⟨4, 369, 306, by decide, by decide, by decide⟩
  | succ days ih =>
    obtain ⟨era, yoe, doy, within, inside, whole⟩ := ih
    -- The next day is of the same year, the next year, or the next era.
    by_cases more : doy + 1 < yearDays yoe
    · exact ⟨era, yoe, doy + 1, within, more, by omega⟩
    · have ends : doy + 1 = yearDays yoe := by omega
      by_cases last : yoe < 399
      · refine ⟨era, yoe + 1, 0, by omega, yearDays_pos _, ?_⟩
        rw [yearStart_succ yoe last]
        omega
      · -- An era is of four hundred years.
        have yoe' : yoe = 399 := by omega
        subst yoe'
        have whole' : yearStart 399 + yearDays 399 = 146097 := by decide
        have start : yearStart 0 = 0 := by decide
        exact ⟨era + 1, 0, 0, by decide, yearDays_pos 0, by omega⟩

/-- The first day is the first of January 1970, every day is one that the calendar has, and each is followed by the next. -/
theorem civil_calendar : civil 0 = ⟨1970, 1, 1⟩
    ∧ ∀ days, (civil days).Valid ∧ civil (days + 1) = (civil days).next := by
  refine ⟨by decide, ?_⟩
  intro days
  obtain ⟨era, yoe, doy, within, inside, whole⟩ := day_of_era days
  rw [civil_of within inside whole]
  refine ⟨dateOf_valid inside, ?_⟩
  -- Within a year the next day is the date's; over its end, the first of March.
  by_cases more : doy + 1 < yearDays yoe
  · rw [@civil_of _ era _ _ within more (by omega), dateOf_next more]
  · have ends : doy + 1 = yearDays yoe := by omega
    have march : monthOf 0 = 3 ∧ dayOf 0 = 1 := by decide
    rw [dateOf_turn ends]
    by_cases last : yoe < 399
    · have start := yearStart_succ yoe last
      rw [@civil_of _ _ (yoe + 1) 0 (by omega) (yearDays_pos _) (by omega : days + 1 + 719468 = era * 146097 + _)]
      simp only [dateOf, march]
      simp
    · have yoe' : yoe = 399 := by omega
      subst yoe'
      have whole' : yearStart 399 + yearDays 399 = 146097 := by decide
      have start : yearStart 0 = 0 := by decide
      rw [@civil_of _ (era + 1) 0 0 (by decide) (yearDays_pos 0) (by omega)]
      simp only [dateOf, march]
      congr 1
      rw [if_neg (by decide)]
      omega

end Diag
end Nightdrop
