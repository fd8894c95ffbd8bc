import Lehen.Columns
import Lehen.Storage
import Mathlib.Tactic.IntervalCases

/-!
The dates of `civilDate` against those of Python: the ordinal of the date of a day
is the day, and days are in the order of their dates.
-/

namespace Lehen.Calendar

open Storage Columns

/-! Dates, as `datetime` counts them. -/

def isLeap (year : Nat) : Bool := year % 4 = 0 && (year % 100 ≠ 0 || year % 400 = 0)

def daysBeforeYear (year : Nat) : Nat :=
  let y := year - 1
  y * 365 + y / 4 - y / 100 + y / 400

def daysInMonth (year month : Nat) : Nat :=
  if month = 2 ∧ isLeap year then 29
  else [0, 31, 28, 31, 30, 31, 30, 31, 31, 30, 31, 30, 31].getD month 0

def daysBeforeMonth (year month : Nat) : Nat :=
  [0, 0, 31, 59, 90, 120, 151, 181, 212, 243, 273, 304, 334].getD month 0 +
    if 2 < month ∧ isLeap year then 1 else 0

def toordinal (year month day : Nat) : Nat :=
  daysBeforeYear year + daysBeforeMonth year month + day

/-- `date(1970, 1, 1).toordinal()`. -/
def epochOrdinal : Nat := 719163

example : toordinal 1970 1 1 = epochOrdinal := by decide

/-! A date by the days since 1 March of the year zero. -/

/-- The day on which a month begins, months counted from that March. -/
def monthStart (months : Nat) : Nat :=
  let year := months / 12
  365 * year + year / 4 - year / 100 + year / 400 + (153 * (months % 12) + 2) / 5

/-- Centuries, groups of four years, years and days of an era of 400 years. -/
structure EraParts (dayOfEra c q a d : Nat) : Prop where
  whole : dayOfEra = 36524 * c + 1461 * q + 365 * a + d
  centuries : c < 4
  groups : q < 25
  years : a < 4
  days : d < 366
  leap : d = 365 → a = 3 ∧ (q < 24 ∨ c = 3)

theorem era_parts {dayOfEra : Nat} (bounded : dayOfEra < 146097) :
    ∃ c q a d, EraParts dayOfEra c q a d := by
  let c := min (dayOfEra / 36524) 3
  let inCentury := dayOfEra - 36524 * c
  let q := inCentury / 1461
  let inGroup := inCentury - 1461 * q
  let a := min (inGroup / 365) 3
  refine ⟨c, q, a, inGroup - 365 * a, ?_, ?_, ?_, ?_, ?_, ?_⟩ <;> omega

theorem year_of_era {dayOfEra c q a d : Nat} (parts : EraParts dayOfEra c q a d) :
    (dayOfEra - dayOfEra / 1460 + dayOfEra / 36524 - dayOfEra / 146096) / 365 =
      100 * c + 4 * q + a := by
  obtain ⟨whole, centuries, groups, years, days, leap⟩ := parts
  have fours : dayOfEra / 1460 = 25 * c + q ∧ 24 * c + q + 365 * a + d < 1460 ∨
      dayOfEra / 1460 = 25 * c + q + 1 ∧ a = 3 ∧ 1460 ≤ 24 * c + q + 365 * a + d := by
    interval_cases c <;> interval_cases a <;> omega
  have hundreds : dayOfEra / 36524 = c ∧ dayOfEra < 146096 ∨
      dayOfEra / 36524 = 4 ∧ dayOfEra = 146096 ∧ c = 3 := by
    interval_cases c <;> omega
  have last : dayOfEra / 146096 = 0 ∧ dayOfEra < 146096 ∨
      dayOfEra / 146096 = 1 ∧ dayOfEra = 146096 := by omega
  rcases fours with ⟨same, _⟩ | ⟨same, _⟩ <;> rcases hundreds with ⟨century, _⟩ | ⟨century, _⟩ <;>
    rcases last with ⟨era, _⟩ | ⟨era, _⟩ <;> rw [same, century, era] <;> omega

/-- Months from the March of the year zero to the month of the date. -/
def monthsOf (date : Nat × Nat × Nat) : Nat := 12 * date.1 + date.2.1 - 3

/-- A date lies in its month. -/
structure Dated (shifted : Nat) (date : Nat × Nat × Nat) : Prop where
  starts : monthStart (monthsOf date) + date.2.2 = shifted + 1
  ends : shifted < monthStart (monthsOf date + 1)
  day : 1 ≤ date.2.2
  month : 1 ≤ date.2.1 ∧ date.2.1 ≤ 12
  year : 1 ≤ date.1

/-- A day of a year that begins in March, in its month. -/
structure YearParts (days year month inMonth : Nat) : Prop where
  whole : days = 365 * year + year / 4 - year / 100 + year / 400 + (153 * month + 2) / 5 + inMonth
  months : month < 12
  ends : days < monthStart (12 * year + month + 1)

theorem month_start_at (year month : Nat) (bounded : month < 12) :
    monthStart (12 * year + month) =
      365 * year + year / 4 - year / 100 + year / 400 + (153 * month + 2) / 5 := by
  have whole : (12 * year + month) / 12 = year := by omega
  have rest : (12 * year + month) % 12 = month := by omega
  simp only [monthStart, whole, rest]

/-- The year and the month of a day of an era. -/
theorem year_parts {days era c q a d : Nat} (split : days = 146097 * era + (days % 146097))
    (parts : EraParts (days % 146097) c q a d) :
    YearParts days (100 * c + 4 * q + a + era * 400) ((5 * d + 2) / 153)
      (d - (153 * ((5 * d + 2) / 153) + 2) / 5) := by
  obtain ⟨whole, centuries, groups, years, inYear, leap⟩ := parts
  have fours : (100 * c + 4 * q + a + era * 400) / 4 = 25 * c + q + 100 * era := by omega
  have hundreds : (100 * c + 4 * q + a + era * 400) / 100 = c + 4 * era := by omega
  have eras : (100 * c + 4 * q + a + era * 400) / 400 = era := by omega
  have before : (153 * ((5 * d + 2) / 153) + 2) / 5 ≤ d := by omega
  have bounded : (5 * d + 2) / 153 < 12 := by omega
  refine ⟨by omega, bounded, ?_⟩
  by_cases inside : (5 * d + 2) / 153 < 11
  · rw [Nat.add_assoc, month_start_at _ _ (by omega)]
    omega
  · have last : (5 * d + 2) / 153 = 11 := by omega
    have next : 12 * (100 * c + 4 * q + a + era * 400) + (5 * d + 2) / 153 + 1 =
        12 * (100 * c + 4 * q + a + era * 400 + 1) + 0 := by omega
    have nextFours : (100 * c + 4 * q + a + era * 400 + 1) / 4 = 25 * c + q + 100 * era ∧ a < 3 ∨
        (100 * c + 4 * q + a + era * 400 + 1) / 4 = 25 * c + q + 100 * era + 1 ∧ a = 3 := by omega
    have nextHundreds : (100 * c + 4 * q + a + era * 400 + 1) / 100 = c + 4 * era ∧ (q < 24 ∨ a < 3) ∨
        (100 * c + 4 * q + a + era * 400 + 1) / 100 = c + 4 * era + 1 ∧ q = 24 := by omega
    have nextEras : (100 * c + 4 * q + a + era * 400 + 1) / 400 = era ∧ (c < 3 ∨ q < 24 ∨ a < 3) ∨
        (100 * c + 4 * q + a + era * 400 + 1) / 400 = era + 1 ∧ c = 3 := by omega
    rw [next, month_start_at _ _ (by omega)]
    omega

theorem dated_parts {shifted march month inMonth : Nat} (parts : YearParts shifted march month inMonth)
    (positive : 1 ≤ march) :
    Dated shifted (march + (if (if month < 10 then month + 3 else month - 9) ≤ 2 then 1 else 0),
      if month < 10 then month + 3 else month - 9, inMonth + 1) := by
  obtain ⟨whole, bounded, ends⟩ := parts
  have counted : monthsOf (march + (if (if month < 10 then month + 3 else month - 9) ≤ 2 then 1 else 0),
      if month < 10 then month + 3 else month - 9, inMonth + 1) = 12 * march + month := by
    unfold monthsOf
    dsimp only
    split <;> split <;> omega
  constructor
  · rw [counted, month_start_at march month bounded, whole]
    rfl
  · rw [counted]
    exact ends
  · exact Nat.le_add_left ..
  · dsimp only
    split <;> omega
  · exact Nat.le_add_right_of_le positive

theorem dated_civil (days : Nat) : Dated (days + 719468) (civilDate days) := by
  have late : 146097 ≤ days + 719468 := by omega
  unfold civilDate
  generalize days + 719468 = shifted at late ⊢
  obtain ⟨c, q, a, d, parts⟩ := @era_parts (shifted % 146097) (Nat.mod_lt _ (by decide))
  have byYears := year_of_era parts
  have inYear : shifted % 146097 - (365 * (100 * c + 4 * q + a) + (100 * c + 4 * q + a) / 4 -
      (100 * c + 4 * q + a) / 100) = d := by
    obtain ⟨whole, centuries, groups, years, _, _⟩ := parts
    have fours : (100 * c + 4 * q + a) / 4 = 25 * c + q := by omega
    have hundreds : (100 * c + 4 * q + a) / 100 = c := by omega
    omega
  have year := year_parts (Nat.div_add_mod ..).symm parts
  have positive : 1 ≤ 100 * c + 4 * q + a + shifted / 146097 * 400 := by omega
  simp only [byYears, inYear]
  exact dated_parts year positive

/-! The same by ordinals and lengths of months. -/

theorem leap_iff (year : Nat) : isLeap year = true ↔ 4 ∣ year ∧ (¬ 100 ∣ year ∨ 400 ∣ year) := by
  simp [isLeap, Nat.dvd_iff_mod_eq_zero]

/-- A year has 365 days, and one more when it is a leap year. -/
theorem days_before_next {year : Nat} (positive : 1 ≤ year) :
    365 * year + year / 4 - year / 100 + year / 400 =
      daysBeforeYear year + 365 + if isLeap year = true then 1 else 0 := by
  obtain ⟨before, rfl⟩ : ∃ before, year = before + 1 := ⟨year - 1, by omega⟩
  have centuries : before / 100 ≤ before / 4 := Nat.div_le_div_left (by decide) (by decide)
  have hundreds : 100 ∣ before + 1 → 4 ∣ before + 1 := (by decide : 4 ∣ 100).trans
  have eras : 400 ∣ before + 1 → 100 ∣ before + 1 := (by decide : 100 ∣ 400).trans
  simp only [daysBeforeYear, leap_iff, Nat.add_sub_cancel, Nat.succ_div]
  by_cases four : 4 ∣ before + 1 <;> by_cases hundred : 100 ∣ before + 1 <;>
    by_cases era : 400 ∣ before + 1 <;> simp only [four, hundred, era] at hundreds eras ⊢ <;>
    simp at hundreds eras ⊢ <;> omega

/-- The first of a month, by the ordinals. -/
theorem month_start_of {year month : Nat} (positive : 1 ≤ year) (named : 1 ≤ month ∧ month ≤ 12) :
    monthStart (12 * year + month - 3) = daysBeforeYear year + daysBeforeMonth year month + 306 := by
  obtain ⟨first, last⟩ := named
  by_cases early : month ≤ 2
  · have same : 12 * year + month - 3 = 12 * (year - 1) + (month + 9) := by omega
    rw [same, month_start_at _ _ (by omega), daysBeforeMonth, if_neg (by omega)]
    unfold daysBeforeYear
    interval_cases month <;> simp only [List.getD_cons_succ, List.getD_cons_zero] <;> omega
  · have same : 12 * year + month - 3 = 12 * year + (month - 3) := by omega
    have late : 2 < month := by omega
    rw [same, month_start_at _ _ (by omega), days_before_next positive, daysBeforeMonth]
    simp only [late, true_and]
    generalize daysBeforeYear year = before
    generalize (if isLeap year = true then 1 else 0) = leap
    interval_cases month <;> simp only [List.getD_cons_succ, List.getD_cons_zero] <;> omega

theorem month_length {year month : Nat} (positive : 1 ≤ year) (named : 1 ≤ month ∧ month ≤ 12) :
    monthStart (12 * year + month - 3 + 1) =
      monthStart (12 * year + month - 3) + daysInMonth year month := by
  rw [month_start_of positive named]
  obtain ⟨first, last⟩ := named
  by_cases inside : month < 12
  · have next : 12 * year + month - 3 + 1 = 12 * year + (month + 1) - 3 := by omega
    rw [next, month_start_of positive ⟨by omega, by omega⟩, daysBeforeMonth, daysBeforeMonth, daysInMonth]
    generalize daysBeforeYear year = before
    cases isLeap year <;> interval_cases month <;> simp
  · have next : 12 * year + month - 3 + 1 = 12 * (year + 1) + 1 - 3 := by omega
    have december : month = 12 := by omega
    have whole := days_before_next positive
    have longer : daysBeforeYear (year + 1) = daysBeforeYear year + 365 +
        if isLeap year = true then 1 else 0 := by
      rw [← whole, daysBeforeYear, Nat.add_sub_cancel, Nat.mul_comm]
    rw [next, month_start_of (by omega) ⟨by omega, by omega⟩, longer, december, daysBeforeMonth,
      daysBeforeMonth, daysInMonth]
    cases isLeap year <;> simp

theorem days_in_month_bounds (year : Nat) {month : Nat} (named : 1 ≤ month ∧ month ≤ 12) :
    1 ≤ daysInMonth year month ∧ daysInMonth year month ≤ 31 := by
  obtain ⟨first, last⟩ := named
  unfold daysInMonth
  cases isLeap year <;> interval_cases month <;> simp

/-- The ordinal of the date of a day. -/
theorem toordinal_civil (days : Nat) :
    toordinal (civilDate days).1 (civilDate days).2.1 (civilDate days).2.2 = days + epochOrdinal := by
  obtain ⟨starts, _, _, named, positive⟩ := dated_civil days
  rw [monthsOf, month_start_of positive named] at starts
  unfold toordinal epochOrdinal
  omega

theorem in_month (days : Nat) :
    (civilDate days).2.2 ≤ daysInMonth (civilDate days).1 (civilDate days).2.1 := by
  obtain ⟨starts, ends, _, named, positive⟩ := dated_civil days
  rw [monthsOf] at starts ends
  rw [month_length positive named] at ends
  omega

/-! The order of days is that of their months, and in a month that of the date. -/

theorem month_start_mono {first last : Nat} (within : first ≤ last) : monthStart first ≤ monthStart last := by
  refine monotone_nat_of_le_succ (fun months => ?_) within
  have same : months = 12 * (months / 12) + months % 12 := (Nat.div_add_mod months 12).symm
  have bounded : months % 12 < 12 := Nat.mod_lt months (by decide)
  generalize months / 12 = year at same
  generalize months % 12 = month at same bounded
  subst same
  by_cases inside : month < 11
  · rw [Nat.add_assoc, month_start_at _ _ bounded, month_start_at _ _ (by omega)]
    omega
  · have next : 12 * year + month + 1 = 12 * (year + 1) + 0 := by omega
    rw [next, month_start_at _ _ bounded, month_start_at _ _ (by omega)]
    omega

/-- Months since the year zero, January included. -/
def monthIndex (days : Nat) : Nat := 12 * (civilDate days).1 + (civilDate days).2.1 - 1

theorem graded_days (domain : Set Nat) :
    Graded domain monthIndex fun days => (civilDate days).2.2 := by
  have months (days : Nat) : monthsOf (civilDate days) = monthIndex days - 2 ∧ 2 ≤ monthIndex days := by
    obtain ⟨_, _, _, named, positive⟩ := dated_civil days
    unfold monthsOf monthIndex
    omega
  have later (left right : Nat) (lower : monthIndex left < monthIndex right) : left < right := by
    have before := (dated_civil left).ends
    have begins := (dated_civil right).starts
    have day := (dated_civil right).day
    have whole : monthStart (monthsOf (civilDate left) + 1) ≤ monthStart (monthsOf (civilDate right)) := by
      apply month_start_mono
      have first := months left
      have second := months right
      omega
    omega
  intro left _ right _
  have first := (dated_civil left).starts
  have second := (dated_civil right).starts
  rw [(months left).1] at first
  rw [(months right).1] at second
  show left < right ↔ monthIndex left < monthIndex right ∨
    monthIndex left = monthIndex right ∧ (civilDate left).2.2 < (civilDate right).2.2
  constructor
  · intro less
    rcases lt_trichotomy (monthIndex left) (monthIndex right) with lower | same | higher
    · exact .inl lower
    · refine .inr ⟨same, ?_⟩
      rw [same] at first
      omega
    · have := later right left higher
      omega
  · rintro (lower | ⟨same, less⟩)
    · exact later left right lower
    · rw [same] at first
      omega

end Lehen.Calendar
