import LineShell.Calendar
import Mathlib.Tactic.IntervalCases

/-!
# The Gregorian calendar

Dates are found by division: in cycles of 400 years, and in years that begin in March. The calendar
itself has other rules, and they come first here. Nothing in them divides days:

    IsLeap, monthLength : how long years and months are
    Date.Valid          : the date is in the calendar
    Date.days           : a date ──▶ the days from the first of January 1970 to it

A day of a cycle is a day of the year found for it (`exists_dayOfYear`), and January is the end of a
year that has begun in March (`daysToYear_cycle`, `daysToMonth_spring`). Main statement: the date of
every day, before or after 1970, is in the calendar and as many days away (`valid_days_ofDays`).
-/

namespace LineShell.Calendar

/-! ### The rules -/

/-- A fourth year is a leap year, but of those that end a century only a fourth one is. -/
def IsLeap (year : Int) : Prop := 4 ∣ year ∧ (100 ∣ year → 400 ∣ year)

instance (year : Int) : Decidable (IsLeap year) := inferInstanceAs (Decidable (_ ∧ _))

def monthLength (year : Int) (month : Nat) : Nat :=
  if month = 2 then if IsLeap year then 29 else 28
  else if month = 4 ∨ month = 6 ∨ month = 9 ∨ month = 11 then 30 else 31

/-- The days from the first of January of year one to the first of January of a year. -/
def daysToYear (year : Int) : Int :=
  365 * (year - 1) + (year - 1) / 4 - (year - 1) / 100 + (year - 1) / 400

/-- The days from the first of January to the first of a month. -/
def daysToMonth (year : Int) (month : Nat) : Nat :=
  ((List.range' 1 (month - 1)).map (monthLength year)).sum

structure Date.Valid (d : Date) : Prop where
  month : 1 ≤ d.month ∧ d.month ≤ 12
  day : 1 ≤ d.day ∧ d.day ≤ monthLength d.year d.month

/-- The days from the first of January 1970 to the date. -/
def Date.days (d : Date) : Int :=
  daysToYear d.year + daysToMonth d.year d.month + (d.day - 1) - daysToYear 1970

/-- A year has 365 days, and a leap year one more. -/
theorem daysToYear_succ (year : Int) :
    daysToYear (year + 1) = daysToYear year + if IsLeap year then 366 else 365 := by
  by_cases h : IsLeap year
  · rw [if_pos h]
    unfold IsLeap at h
    unfold daysToYear
    omega
  · rw [if_neg h]
    unfold IsLeap at h
    unfold daysToYear
    omega

/-! ### Years of a cycle -/

/-- In the first three centuries and the fourth but for its last day, the year is found by
division. The quotient by 1460 counts the leap days before it, or one more at the end of four
years. -/
theorem exists_dayOfYear_century {century day : Nat} (hcentury : century < 4) (hday : day < 36524)
    {y : Nat} (hy : y = (36524 * century + day + century - (36524 * century + day) / 1460) / 365) :
    y < 400 ∧ ∃ t, 36524 * century + day = daysBeforeYear y + t ∧
      (t < 365 ∨ t = 365 ∧ IsLeap (y + 1)) := by
  obtain ⟨q, hq⟩ : ∃ q, q = (36524 * century + day) / 1460 := ⟨_, rfl⟩
  have hsame : y / 100 = century := by
    have hquarter : (36524 * century + day) / 1460 =
        25 * century + (24 * century + day) / 1460 := by
      omega
    omega
  rw [← hq] at hy
  have hlow : y / 4 ≤ q := by omega
  have hhigh : q ≤ y / 4 + 1 := by omega
  have hstart : daysBeforeYear y ≤ 36524 * century + day := by
    unfold daysBeforeYear
    omega
  obtain ⟨t, ht⟩ := Nat.exists_eq_add_of_le hstart
  have hsum : 365 * y + y / 4 + t = 36524 * century + day + century := by
    unfold daysBeforeYear at ht
    omega
  refine ⟨by omega, t, ht, ?_⟩
  have hend : 36524 * century + day + century - q < 365 * y + 365 := by omega
  have hfour : 1460 * q ≤ 36524 * century + day := by omega
  clear hq hy hstart ht
  by_cases hshort : t < 365
  · exact .inl hshort
  · -- one more day only fits into the last of four years, and not at the end of a century
    have hlong : t = 365 := by omega
    have hlast : 3 ≤ y % 4 := by omega
    refine .inr ⟨hlong, ?_⟩
    unfold IsLeap
    omega

/-- A day of a cycle is a day of the year that is found for it. -/
theorem exists_dayOfYear {day : Nat} (h : day < 146097) :
    yearOfCycle day < 400 ∧ ∃ t, day = daysBeforeYear (yearOfCycle day) + t ∧
      (t < 365 ∨ t = 365 ∧ IsLeap (yearOfCycle day + 1)) := by
  by_cases hlast : day = 146096
  · subst hlast
    exact ⟨by decide, 365, by decide, .inr ⟨rfl, by decide⟩⟩
  · have hsplit : day = 36524 * (day / 36524) + day % 36524 := by omega
    have hyear : yearOfCycle day = (36524 * (day / 36524) + day % 36524 + day / 36524 -
        (36524 * (day / 36524) + day % 36524) / 1460) / 365 := by
      rw [← hsplit, yearOfCycle]
      omega
    have hfound := exists_dayOfYear_century (by omega) (Nat.mod_lt _ (by decide)) hyear
    rwa [← hsplit] at hfound

/-- January comes at the end of a year that has begun in March. -/
theorem daysToYear_cycle (cycle : Int) {y : Nat} (h : y < 400) :
    daysToYear (cycle * 400 + y + 1) = cycleDays * cycle + daysBeforeYear y := by
  unfold daysToYear cycleDays daysBeforeYear
  omega

/-! ### Months of a year -/

/-- From March on, months are as long as their places say, and February is over. -/
theorem daysToMonth_spring (year : Int) {m : Nat} (h : m < 10) :
    daysToMonth year (m + 3) = daysBeforeMonth m + (if IsLeap year then 60 else 59) ∧
    monthLength year (m + 3) = daysBeforeMonth (m + 1) - daysBeforeMonth m := by
  interval_cases m <;> by_cases hleap : IsLeap year <;>
    simp [daysToMonth, daysBeforeMonth, monthLength, hleap, List.range']

/-- A day of a year that begins in March is a day of the month that is found for it. -/
theorem exists_dayOfMonth {t : Nat} (h : t ≤ 365) :
    monthOfYear t < 12 ∧ ∃ r, t = daysBeforeMonth (monthOfYear t) + r ∧
      t < daysBeforeMonth (monthOfYear t + 1) := by
  have hlow : daysBeforeMonth (monthOfYear t) ≤ t := by
    unfold daysBeforeMonth monthOfYear
    omega
  obtain ⟨r, hr⟩ := Nat.exists_eq_add_of_le hlow
  refine ⟨?_, r, hr, ?_⟩
  · unfold monthOfYear
    omega
  · unfold daysBeforeMonth monthOfYear
    omega

/-! ### Dates -/

theorem daysToYear_epoch : daysToYear 1970 = epochDay - 306 := by decide

section

variable (cycle : Int) {y t m r : Nat} (hy : y < 400) (hr : t = daysBeforeMonth m + r)

include hy hr

/-- From March to December a day is in the year in which its March is. -/
theorem spring_date (hm : m < 10) (hnext : t < daysBeforeMonth (m + 1)) :
    (Date.mk (cycle * 400 + y) (m + 3) (r + 1)).Valid ∧
    (Date.mk (cycle * 400 + y) (m + 3) (r + 1)).days =
      cycleDays * cycle + daysBeforeYear y + t - epochDay := by
  obtain ⟨hbefore, hlength⟩ := daysToMonth_spring (cycle * 400 + y) hm
  have hyear := daysToYear_succ (cycle * 400 + y)
  rw [daysToYear_cycle cycle hy] at hyear
  refine ⟨⟨?_, ?_⟩, ?_⟩
  · show 1 ≤ m + 3 ∧ m + 3 ≤ 12
    omega
  · show 1 ≤ r + 1 ∧ r + 1 ≤ monthLength (cycle * 400 + y) (m + 3)
    omega
  · rw [Date.days, daysToYear_epoch, hbefore]
    by_cases hleap : IsLeap (cycle * 400 + y)
    · rw [if_pos hleap] at hyear ⊢
      push_cast
      omega
    · rw [if_neg hleap] at hyear ⊢
      push_cast
      omega

/-- January and February are in the year after it, and February is cut short by its end. -/
theorem winter_date (hm : m = 10 ∨ m = 11) (hnext : t < daysBeforeMonth (m + 1))
    (ht : t < 365 ∨ t = 365 ∧ IsLeap (y + 1)) :
    (Date.mk (cycle * 400 + y + 1) (m - 9) (r + 1)).Valid ∧
    (Date.mk (cycle * 400 + y + 1) (m - 9) (r + 1)).days =
      cycleDays * cycle + daysBeforeYear y + t - epochDay := by
  have hyear := daysToYear_cycle cycle hy
  rcases hm with rfl | rfl
  · have hjanuary : daysBeforeMonth 10 = 306 ∧ daysBeforeMonth (10 + 1) = 337 := by decide
    have hbefore : daysToMonth (cycle * 400 + y + 1) 1 = 0 := rfl
    refine ⟨⟨⟨Nat.le_refl 1, Nat.le_add_left 1 11⟩, ?_⟩, ?_⟩
    · show 1 ≤ r + 1 ∧ r + 1 ≤ 31
      omega
    · rw [Date.days, daysToYear_epoch, hbefore, hyear]
      push_cast
      omega
  · have hfebruary : daysBeforeMonth 11 = 337 := by decide
    have hbefore : daysToMonth (cycle * 400 + y + 1) 2 = 31 := rfl
    refine ⟨⟨⟨Nat.le_add_left 1 1, Nat.le_add_left 2 10⟩, ?_⟩, ?_⟩
    · show 1 ≤ r + 1 ∧ r + 1 ≤ if IsLeap (cycle * 400 + y + 1) then 29 else 28
      have hleap : IsLeap (cycle * 400 + y + 1) ↔ IsLeap (y + 1) := by
        unfold IsLeap
        omega
      split
      · omega
      · next hcommon =>
        rw [hleap] at hcommon
        have hshort : t < 365 := ht.resolve_right fun hlong => hcommon hlong.2
        omega
    · rw [Date.days, daysToYear_epoch, hbefore, hyear]
      push_cast
      omega

end

/-- The date of a day is in the calendar, and as many days away. -/
theorem valid_days_ofDays (n : Int) : (Date.ofDays n).Valid ∧ (Date.ofDays n).days = n := by
  have hday : ((n + epochDay) % cycleDays).toNat < 146097 := by
    unfold cycleDays
    omega
  have hsplit : cycleDays * ((n + epochDay) / cycleDays) +
      ((n + epochDay) % cycleDays).toNat = n + epochDay := by
    unfold cycleDays
    omega
  rw [Date.ofDays]
  generalize (n + epochDay) / cycleDays = cycle at *
  generalize ((n + epochDay) % cycleDays).toNat = day at *
  obtain ⟨hy, t, hyear, ht⟩ := exists_dayOfYear hday
  generalize yearOfCycle day = y at *
  have hle : t ≤ 365 := by omega
  obtain ⟨hm, r, hr, hnext⟩ := exists_dayOfMonth hle
  rw [hyear, Nat.add_sub_cancel_left]
  have hdays : cycleDays * cycle + daysBeforeYear y + t - epochDay = n := by
    omega
  rw [← hdays]
  have hrest : t - daysBeforeMonth (monthOfYear t) = r := by omega
  rw [hrest]
  generalize monthOfYear t = m at *
  by_cases hspring : m < 10
  · have hmonth : ¬ m + 3 ≤ 2 := by omega
    rw [if_pos hspring, if_neg hmonth, add_zero]
    exact spring_date cycle hy hr hspring hnext
  · have hmonth : m - 9 ≤ 2 := by omega
    rw [if_neg hspring, if_pos hmonth]
    exact winter_date cycle hy hr (by omega) hnext ht

end LineShell.Calendar
