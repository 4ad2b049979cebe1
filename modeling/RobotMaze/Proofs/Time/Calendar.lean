import RobotMaze.Time.Calendar

/-! # Calendar laws — a day number and its date

    Every day number has a date of the calendar, and the date leads back to it
    (`Date.isValid_ofDayNumber`, `Date.dayNumber_ofDayNumber`).  Years run from
    March to February here, so the route is:

    * within an era of 400 years the day lies between the first day of the
      computed year and that of the next (`daysBefore_le`, `lt_daysBefore`);
    * so what is left over is a day of that year, and the month formula
      splits it into a month and a day (`dayNumber_marchDate`);
    * only a leap year has a day 365, counted from zero.

    A later day number has a later date (`Date.before_ofDayNumber`). -/

namespace RobotMaze.Time.Date

/-- The days between March of the year zero and March of a year. -/
def daysBefore (year : Int) : Int := 365 * year + year / 4 - year / 100 + year / 400

/-- The year in which a day of an era lies. -/
def yearOfEra (day : Int) : Int := (day - day / 1460 + day / 36524 - day / 146096) / 365

/-- The date of a day in a year that begins in March. -/
def marchDate (year dayOfYear : Int) : Date :=
  let month := (5 * dayOfYear + 2) / 153
  let day := dayOfYear - (153 * month + 2) / 5 + 1
  if month < 10 then ⟨year, (month + 3).toNat, day.toNat⟩
  else ⟨year + 1, (month - 9).toNat, day.toNat⟩

/-! ## Years of an era -/

section Era

variable {day year : Int} (hday : 0 ≤ day) (hera : day < 146097) (hyear : yearOfEra day = year)
include hday hera hyear

theorem yearOfEra_bounds : 0 ≤ year ∧ year ≤ 399 := by
  simp only [yearOfEra] at hyear
  omega

/-- A day does not lie before the year computed for it. -/
theorem daysBefore_le : daysBefore year ≤ day := by
  have hbounds := yearOfEra_bounds hday hera hyear
  simp only [yearOfEra] at hyear
  simp only [daysBefore]
  have hleaps : year / 4 ≤ day / 1460 := by omega
  have hcenturies : day / 36524 - day / 146096 ≤ year / 100 := by omega
  omega

/-- A day lies before the year after the one computed for it. -/
theorem lt_daysBefore : day < daysBefore (year + 1) := by
  have hbounds := yearOfEra_bounds hday hera hyear
  simp only [yearOfEra] at hyear
  simp only [daysBefore]
  have hleaps : day / 1460 ≤ (year + 1) / 4 := by omega
  by_cases hcenturies : (year + 1) / 100 - (year + 1) / 400 ≤ day / 36524 - day / 146096
  · omega
  · -- a century begins with the next year, and the day lies before it
    have hcentury : day / 36524 + 1 ≤ (year + 1) / 100 := by omega
    have hquarter : 25 * ((year + 1) / 100) ≤ (year + 1) / 4 := by omega
    omega

end Era

/-- Every era has the same number of days. -/
theorem daysBefore_add_eras (year era : Int) :
    daysBefore (year + 400 * era) = daysBefore year + 146097 * era := by
  simp only [daysBefore]
  omega

/-- A year has at most 366 days. -/
theorem daysBefore_succ_le (year : Int) : daysBefore (year + 1) ≤ daysBefore year + 366 := by
  simp only [daysBefore]
  omega

/-- A year with a day 365 ends in a leap year. -/
theorem isLeapYear_of_lt {year : Int} (h : daysBefore year + 365 < daysBefore (year + 1)) :
    isLeapYear (year + 1) = true := by
  simp only [daysBefore] at h
  have h4 : (year + 1) % 4 = 0 := by omega
  have h400 : (year + 1) % 100 ≠ 0 ∨ (year + 1) % 400 = 0 := by omega
  simp only [isLeapYear]
  simpa [h4] using h400

/-! ## Days of a year -/

section March

variable {year dayOfYear : Int} (hday : 0 ≤ dayOfYear)
include hday

/-- The day number of a date in a year that begins in March. -/
theorem dayNumber_marchDate (hyear : dayOfYear ≤ 365) :
    (marchDate year dayOfYear).dayNumber = daysBefore year + dayOfYear - epochShift := by
  simp only [marchDate, dayNumber, daysBefore]
  by_cases hmonth : (5 * dayOfYear + 2) / 153 < 10
  · simp only [if_pos hmonth]
    rw [if_neg (by omega), if_neg (by omega)]
    omega
  · simp only [if_neg hmonth]
    rw [if_pos (by omega), if_pos (by omega)]
    omega

/-- The calendar has the date of every day up to 364, and of day 365 before a leap year's March. -/
theorem isValid_marchDate
    (hyear : dayOfYear ≤ 364 ∨ (dayOfYear = 365 ∧ isLeapYear (year + 1) = true)) :
    (marchDate year dayOfYear).IsValid := by
  simp only [marchDate, IsValid]
  -- each month has a number of days of its own
  obtain ⟨month, hmonth⟩ : ∃ month, month = (5 * dayOfYear + 2) / 153 := ⟨_, rfl⟩
  have hcases : month = 0 ∨ month = 1 ∨ month = 2 ∨ month = 3 ∨ month = 4 ∨ month = 5 ∨ month = 6
      ∨ month = 7 ∨ month = 8 ∨ month = 9 ∨ month = 10 ∨ month = 11 := by omega
  simp only [← hmonth]
  rcases hcases with rfl | rfl | rfl | rfl | rfl | rfl | rfl | rfl | rfl | rfl | rfl | rfl
  case inr.inr.inr.inr.inr.inr.inr.inr.inr.inr.inr =>
    -- February, the last month, has its day 29 in a leap year only
    show 1 ≤ (dayOfYear - (153 * 11 + 2) / 5 + 1).toNat
      ∧ (dayOfYear - (153 * 11 + 2) / 5 + 1).toNat ≤ if isLeapYear (year + 1) then 29 else 28
    rcases hyear with hshort | ⟨hlong, hleap⟩
    · split <;> omega
    · rw [if_pos hleap]
      omega
  all_goals
    simp [daysInMonth]
    omega

end March

/-! ## Day numbers -/

/-- What a day number splits into: the era, the year in it and the day of that year. -/
theorem ofDayNumber_eq (n : Int) :
    ∃ year dayOfYear : Int, ofDayNumber n = marchDate year dayOfYear ∧ 0 ≤ dayOfYear
      ∧ daysBefore year + dayOfYear = n + epochShift ∧ n + epochShift < daysBefore (year + 1) := by
  have hday : 0 ≤ (n + epochShift) % 146097 := by omega
  have hera : (n + epochShift) % 146097 < 146097 := by omega
  obtain ⟨y, hy⟩ : ∃ y, yearOfEra ((n + epochShift) % 146097) = y := ⟨_, rfl⟩
  have hbounds := yearOfEra_bounds hday hera hy
  have hle := daysBefore_le hday hera hy
  have hlt := lt_daysBefore hday hera hy
  have heras := daysBefore_add_eras y ((n + epochShift) / 146097)
  have hnext := daysBefore_add_eras (y + 1) ((n + epochShift) / 146097)
  have hyears : y + 400 * ((n + epochShift) / 146097) + 1
      = y + 1 + 400 * ((n + epochShift) / 146097) := by omega
  refine ⟨y + 400 * ((n + epochShift) / 146097), (n + epochShift) % 146097 - daysBefore y,
    ?_, by omega, by omega, by rw [hyears]; omega⟩
  have hstart : daysBefore y = 365 * y + y / 4 - y / 100 := by
    simp only [daysBefore]
    omega
  rw [hstart, ← hy]
  rfl

/-- A date leads back to its day number. -/
theorem dayNumber_ofDayNumber (n : Int) : (ofDayNumber n).dayNumber = n := by
  obtain ⟨year, dayOfYear, heq, hday, hsum, hlt⟩ := ofDayNumber_eq n
  have hyear := daysBefore_succ_le year
  rw [heq, dayNumber_marchDate hday (by omega)]
  omega

/-- The calendar has the date of every day number. -/
theorem isValid_ofDayNumber (n : Int) : (ofDayNumber n).IsValid := by
  obtain ⟨year, dayOfYear, heq, hday, hsum, hlt⟩ := ofDayNumber_eq n
  have hyear := daysBefore_succ_le year
  rw [heq]
  refine isValid_marchDate hday ?_
  by_cases hlong : dayOfYear ≤ 364
  · exact Or.inl hlong
  · exact Or.inr ⟨by omega, isLeapYear_of_lt (by omega)⟩

/-! ## Order -/

/-- One date comes before another. -/
def Before (d e : Date) : Prop :=
  d.year < e.year ∨ (d.year = e.year ∧ (d.month < e.month ∨ (d.month = e.month ∧ d.day < e.day)))

/-- Days are counted from the first of their month. -/
theorem dayNumber_eq_first_add (d : Date) :
    d.dayNumber = (Date.mk d.year d.month 1).dayNumber + d.day - 1 := by
  simp only [dayNumber]
  omega

/-- A month ends before a later month of its year begins. -/
theorem first_add_daysInMonth_le (year : Int) {month later : Nat} (hfirst : 1 ≤ month)
    (hlt : month < later) (hlast : later ≤ 12) :
    (Date.mk year month 1).dayNumber + daysInMonth year month
      ≤ (Date.mk year later 1).dayNumber := by
  have hcases : month = 1 ∨ month = 2 ∨ month = 3 ∨ month = 4 ∨ month = 5 ∨ month = 6 ∨ month = 7
      ∨ month = 8 ∨ month = 9 ∨ month = 10 ∨ month = 11 := by omega
  rcases hcases with rfl | rfl | rfl | rfl | rfl | rfl | rfl | rfl | rfl | rfl | rfl
  case inr.inl =>
    -- February: the year that ends with it has a day more in a leap year
    have hmarch : ¬ later ≤ 2 := by omega
    simp only [dayNumber, daysInMonth, if_neg hmarch]
    cases hleap : isLeapYear year with
    | false =>
        simp
        omega
    | true =>
        simp only [isLeapYear, Bool.and_eq_true, Bool.or_eq_true, beq_iff_eq, bne_iff_ne] at hleap
        simp
        omega
  all_goals
    simp only [dayNumber, daysInMonth]
    split <;> simp <;> omega

/-- The last month of a year ends where the next year begins. -/
theorem december_add (year : Int) :
    (Date.mk year 12 1).dayNumber + 31 = (Date.mk (year + 1) 1 1).dayNumber := by
  simp only [dayNumber]
  simp
  omega

/-- Years begin one after the other. -/
theorem january_le {year later : Int} (hle : year ≤ later) :
    (Date.mk year 1 1).dayNumber ≤ (Date.mk later 1 1).dayNumber := by
  simp only [dayNumber]
  simp
  omega

theorem IsValid.month_bounds {d : Date} (hd : d.IsValid) : 1 ≤ d.month ∧ d.month ≤ 12 := by
  obtain ⟨hfirst, hlast⟩ := hd
  simp only [daysInMonth] at hlast
  split at hlast <;> omega

/-- A date of the calendar lies within its month. -/
theorem IsValid.dayNumber_lt {d : Date} (hd : d.IsValid) :
    d.dayNumber < (Date.mk d.year d.month 1).dayNumber + daysInMonth d.year d.month := by
  obtain ⟨hfirst, hlast⟩ := hd
  rw [dayNumber_eq_first_add]
  omega

/-- A date of the calendar lies within its year. -/
theorem IsValid.dayNumber_lt_january {d : Date} (hd : d.IsValid) :
    d.dayNumber < (Date.mk (d.year + 1) 1 1).dayNumber := by
  obtain ⟨hlow, hhigh⟩ := hd.month_bounds
  have hmonth := hd.dayNumber_lt
  rw [← december_add]
  rcases Nat.lt_or_eq_of_le hhigh with hlt | heq
  · have := first_add_daysInMonth_le d.year hlow hlt (Nat.le_refl 12)
    omega
  · rw [heq] at hmonth
    exact hmonth

theorem IsValid.january_le_dayNumber {d : Date} (hd : d.IsValid) :
    (Date.mk d.year 1 1).dayNumber ≤ d.dayNumber := by
  obtain ⟨hlow, hhigh⟩ := hd.month_bounds
  have hfirst := hd.1
  rw [dayNumber_eq_first_add d]
  rcases Nat.lt_or_eq_of_le hlow with hlt | heq
  · have := first_add_daysInMonth_le d.year (Nat.le_refl 1) hlt hhigh
    omega
  · rw [← heq]
    omega

/-- Dates of the calendar have the order of their day numbers. -/
theorem dayNumber_lt_of_before {d e : Date} (hd : d.IsValid) (he : e.IsValid) (h : d.Before e) :
    d.dayNumber < e.dayNumber := by
  rcases h with hyear | ⟨hyear, hmonth | ⟨hmonth, hday⟩⟩
  · calc d.dayNumber < (Date.mk (d.year + 1) 1 1).dayNumber := hd.dayNumber_lt_january
      _ ≤ (Date.mk e.year 1 1).dayNumber := january_le (by omega)
      _ ≤ e.dayNumber := he.january_le_dayNumber
  · have hlow := hd.month_bounds.1
    have hhigh := he.month_bounds.2
    have hfirst := he.1
    have hd := hd.dayNumber_lt
    have hlater := first_add_daysInMonth_le d.year hlow hmonth hhigh
    rw [dayNumber_eq_first_add e, ← hyear]
    omega
  · rw [dayNumber_eq_first_add d, dayNumber_eq_first_add e, hyear, hmonth]
    omega

theorem before_ofDayNumber {n m : Int} (hlt : n < m) : (ofDayNumber n).Before (ofDayNumber m) := by
  obtain ⟨d, hd⟩ : ∃ d, d = ofDayNumber n := ⟨_, rfl⟩
  obtain ⟨e, he⟩ : ∃ e, e = ofDayNumber m := ⟨_, rfl⟩
  rw [← hd, ← he]
  have hdn : d.dayNumber = n := hd ▸ dayNumber_ofDayNumber n
  have hem : e.dayNumber = m := he ▸ dayNumber_ofDayNumber m
  have hback : ¬ e.Before d := by
    intro hbefore
    have := dayNumber_lt_of_before (he ▸ isValid_ofDayNumber m) (hd ▸ isValid_ofDayNumber n) hbefore
    omega
  have hne : ¬ (d.year = e.year ∧ d.month = e.month ∧ d.day = e.day) := by
    rintro ⟨hyear, hmonth, hday⟩
    have := dayNumber_eq_first_add d
    rw [hyear, hmonth, hday, ← dayNumber_eq_first_add e] at this
    omega
  simp only [Before] at hback ⊢
  omega

/-- Years do not fall from one day to a later one. -/
theorem year_le_of_le {n m : Int} (h : n ≤ m) : (ofDayNumber n).year ≤ (ofDayNumber m).year := by
  rcases Int.lt_or_eq_of_le h with hlt | rfl
  · have hbefore := before_ofDayNumber hlt
    simp only [Before] at hbefore
    omega
  · exact Int.le_refl _

end RobotMaze.Time.Date
