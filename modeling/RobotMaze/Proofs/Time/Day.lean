import RobotMaze.Proofs.Time.Order
import RobotMaze.Proofs.Time.Written

/-! # Days — what a stamp tells of the day

    A stamp begins with its date, so days can be told apart, and put in order,
    without reading the stamp:

    * `take_stamp` — the first ten characters are the date;
    * `take_drop_stamp` — and two behind the letter the hour;
    * `stamp_tells` — what the text of a date-time tells, and what is read of it;
    * `midnight_le_iff` — a day begins with its midnight;
    * `stamp_lt_stamp_of_signed` — a year with a sign comes before all others, as a
      text;
    * `stamp_le_iff_of_year_le`, `le_stamp_iff_of_year_le` — so of the bounds of a
      span only those after the year 9999 are not compared as instants;
    * `le_truncate_iff` — a whole millisecond is compared with whole
      milliseconds. -/

namespace RobotMaze.Time

open Decimal (padded)

/-- A date whose year has four digits is written with ten characters. -/
theorem Date.length_chars {d : Date} (hd : d.IsValid) (hlow : 0 ≤ d.year) (hhigh : d.year ≤ 9999) :
    d.chars.length = 10 := by
  obtain ⟨-, hmonth, hday⟩ := hd.bounds
  have hyearWidth := Decimal.length_padded (by decide : 0 < 4) (by omega : d.year.toNat < 10 ^ 4)
  have hmonthWidth := Decimal.length_padded (by decide : 0 < 2) (by omega : d.month < 10 ^ 2)
  have hdayWidth := Decimal.length_padded (by decide : 0 < 2) (by omega : d.day < 10 ^ 2)
  simp only [chars, yearChars, if_pos (And.intro hlow hhigh)]
  simp only [List.length_append, List.length_cons, hyearWidth, hmonthWidth, hdayWidth]

/-- A later day has another date. -/
theorem Date.ofDayNumber_injective : Function.Injective ofDayNumber := by
  intro n m h
  rw [← dayNumber_ofDayNumber n, h, dayNumber_ofDayNumber]

/-- Different days have different texts. -/
theorem Date.render_ofDayNumber_injective :
    Function.Injective fun n => (ofDayNumber n).render := fun n m h =>
  ofDayNumber_injective (render_injective (isValid_ofDayNumber n) (isValid_ofDayNumber m) h)

namespace Instant

/-- A stamp begins with its date. -/
theorem take_stamp {t : Instant} (ht : t.HasFourDigitYear) :
    String.ofList (t.stamp.toList.take 10) = t.date.render := by
  have hlength : t.date.chars.length = 10 :=
    Date.length_chars (Date.isValid_ofDayNumber t.dayNumber) ht.1 ht.2
  simp only [stamp, secondChars, String.toList_ofList]
  rw [List.append_assoc, List.append_assoc, List.take_left' hlength]
  rfl

/-- The hour stands behind the date and the letter. -/
theorem take_drop_stamp {t : Instant} (ht : t.HasFourDigitYear) :
    (t.stamp.toList.drop 11).take 2 = padded 2 (t.secondOfDay / 3600) := by
  have hlt := secondOfDay_lt t
  have hdate : t.date.chars.length = 10 :=
    Date.length_chars (Date.isValid_ofDayNumber t.dayNumber) ht.1 ht.2
  have hhour : (padded 2 (t.secondOfDay / 3600)).length = 2 :=
    Decimal.length_padded (by decide) (by omega)
  obtain ⟨rest, hsplit⟩ : ∃ rest, t.stamp.toList
      = (t.date.chars ++ ['T']) ++ (padded 2 (t.secondOfDay / 3600) ++ rest) := by
    simp only [stamp, secondChars, clockChars, String.toList_ofList]
    simp only [List.append_assoc, List.cons_append, List.nil_append]
    exact ⟨_, rfl⟩
  rw [hsplit, List.drop_left' (by rw [List.length_append, hdate]; rfl), List.take_left' hhour]

/-- All stamps of years with four digits have one width. -/
theorem length_stamp {t : Instant} (ht : t.HasFourDigitYear) : t.stamp.length = 24 := by
  obtain ⟨hmonthLow, hmonthHigh, hdayHigh⟩ := date_bounds t
  have hlt := secondOfDay_lt t
  have hyear : t.date.year ≤ 9999 := ht.2
  have htwo : ∀ {n : Nat}, n < 10 ^ 2 → (padded 2 n).length = 2 := fun hn =>
    Decimal.length_padded (by decide) hn
  have hmilli : (padded 3 (t.nano % nanosPerSecond / 1000000)).length = 3 :=
    Decimal.length_padded (by decide) t.shownMilli_lt
  rw [stamp_eq ht, String.length_ofList]
  simp only [fieldChars, List.length_append, List.length_cons, List.length_nil]
  rw [Decimal.length_padded (by decide) (by omega : t.date.year.toNat < 10 ^ 4), hmilli,
    htwo (by omega), htwo (by omega), htwo (by omega), htwo (by omega),
    htwo (by split <;> omega)]

theorem length_bytes_stamp {t : Instant} (ht : t.HasFourDigitYear) :
    (Text.bytes t.stamp).length = 24 := by
  rw [← String.ofList_toList (s := t.stamp), Text.bytes_ofList (isAscii_stamp ht), List.length_map,
    String.length_toList, length_stamp ht]

/-- A stamp whose year has a sign comes before every one whose year has none. -/
theorem stamp_lt_stamp_of_signed {t u : Instant} (ht : ¬ t.HasFourDigitYear)
    (hu : u.HasFourDigitYear) : t.stamp < u.stamp := by
  obtain ⟨sign, rest, hsigned, hsign⟩ : ∃ sign rest, t.stamp.toList = sign :: rest
      ∧ (sign = '-' ∨ sign = '+') := by
    simp only [stamp, secondChars, Date.chars, yearChars]
    rw [if_neg (show ¬(0 ≤ t.date.year ∧ t.date.year ≤ 9999) from ht), String.toList_ofList]
    refine ⟨_, _, rfl, ?_⟩
    split
    · exact Or.inl rfl
    · exact Or.inr rfl
  obtain ⟨digit, more, hplain, hdigit⟩ : ∃ digit more, u.stamp.toList = digit :: more
      ∧ digit.isDigit = true := by
    obtain ⟨digit, more, hyear, hdigit⟩ := padded_begins 4 u.date.year.toNat
    simp only [stamp, secondChars, Date.chars, yearChars]
    rw [if_pos (show 0 ≤ u.date.year ∧ u.date.year ≤ 9999 from hu), String.toList_ofList, hyear]
    exact ⟨digit, _, rfl, hdigit⟩
  have hlow : 48 ≤ digit.toNat := by
    simp only [Char.isDigit, Bool.and_eq_true, decide_eq_true_eq] at hdigit
    exact hdigit.1
  have hlt : sign < digit := by
    show sign.toNat < digit.toNat
    rcases hsign with rfl | rfl
    · exact Nat.lt_of_lt_of_le (by decide) hlow
    · exact Nat.lt_of_lt_of_le (by decide) hlow
  rw [String.lt_iff, hsigned, hplain]
  exact List.cons_lt_cons_iff.mpr (Or.inl hlt)

/-! ## Midnight -/

/-- The midnight with which a day begins is on no leap second. -/
theorem isReading_ofDayNumber {n : Int} (h : (ofDayNumber n).HasFourDigitYear) :
    (ofDayNumber n).IsReading := by
  refine ⟨h, ?_⟩
  show 0 < nanosPerSecond
  decide

/-- A day begins with its midnight. -/
theorem midnight_le_iff {n : Int} {t : Instant} : ofDayNumber n ≤ t ↔ n ≤ t.dayNumber := by
  have hsecond := second_eq t
  have hlt := secondOfDay_lt t
  show n * 86400 < t.second ∨ (n * 86400 = t.second ∧ 0 ≤ t.nano) ↔ n ≤ t.dayNumber
  omega

theorem dayNumber_le {t u : Instant} (h : t ≤ u) : t.dayNumber ≤ u.dayNumber :=
  midnight_le_iff.mp (Instant.le_trans (midnight_le_iff.mpr (Int.le_refl _)) h)

theorem dayNumber_midnight (n : Int) : (ofDayNumber n).dayNumber = n := by
  simp only [ofDayNumber, dayNumber, secondsPerDay]
  omega

/-- An instant of a later day is a later one. -/
theorem le_of_dayNumber_lt {t u : Instant} (h : t.dayNumber < u.dayNumber) : t ≤ u := by
  simp only [dayNumber, secondsPerDay] at h
  show t.second < u.second ∨ (t.second = u.second ∧ t.nano ≤ u.nano)
  omega

/-! ## Bounds -/

section Bounds

variable {t u : Instant} (ht : t.HasFourDigitYear)
include ht

/-- A year that is not written with four digits, but is none of the later ones, lies before all of
    them. -/
theorem dayNumber_lt_of_signed (hu : ¬ u.HasFourDigitYear) (hyear : u.date.year ≤ 9999) :
    u.dayNumber < t.dayNumber := by
  rw [← Int.not_le]
  intro hle
  have hyears : t.date.year ≤ u.date.year := Date.year_le_of_le hle
  exact hu ⟨Int.le_trans ht.1 hyears, hyear⟩

theorem stamp_le_iff_of_year_le (hyear : u.date.year ≤ 9999) :
    u.stamp ≤ t.stamp ↔ u.stamped ≤ t.stamped := by
  by_cases hu : u.HasFourDigitYear
  · exact stamp_le_stamp_iff_stamped hu ht
  · -- as a text and as an instant it comes before all years of four digits
    have hday := dayNumber_lt_of_signed ht hu hyear
    rw [← dayNumber_stamped u, ← dayNumber_stamped t] at hday
    exact iff_of_true (String.not_lt.mp (String.lt_asymm (stamp_lt_stamp_of_signed hu ht)))
      (le_of_dayNumber_lt hday)

theorem le_stamp_iff_of_year_le (hyear : u.date.year ≤ 9999) :
    t.stamp ≤ u.stamp ↔ t.stamped ≤ u.stamped := by
  by_cases hu : u.HasFourDigitYear
  · exact stamp_le_stamp_iff_stamped ht hu
  · have hday := dayNumber_lt_of_signed ht hu hyear
    rw [← dayNumber_stamped u, ← dayNumber_stamped t] at hday
    refine iff_of_false (String.not_le.mpr (stamp_lt_stamp_of_signed hu ht)) fun hle => ?_
    exact Int.not_lt.mpr (dayNumber_le hle) hday

end Bounds

/-! ## Whole milliseconds -/

/-- What is finer than a millisecond does not count against a whole one. -/
theorem le_truncate_iff {t u : Instant} (ht : t.truncate = t) : t ≤ u.truncate ↔ t ≤ u := by
  have hnano : t.nano / 1000000 * 1000000 = t.nano := congrArg nano ht
  show t.second < u.second ∨ (t.second = u.second ∧ t.nano ≤ u.nano / 1000000 * 1000000)
    ↔ t.second < u.second ∨ (t.second = u.second ∧ t.nano ≤ u.nano)
  omega

theorem truncate_truncate (t : Instant) : t.truncate.truncate = t.truncate := by
  simp only [truncate, Nat.mul_div_cancel _ (by decide : 0 < 1000000)]

theorem truncate_ofDayNumber (n : Int) : (ofDayNumber n).truncate = ofDayNumber n := by
  simp only [truncate, ofDayNumber, Nat.zero_div, Nat.zero_mul]

/-! ## Date-times -/

/-- A date and a time of day of the years 0 to 9999.  A minute has 60 seconds, or 61 with a leap
    second at its end. -/
structure IsDateTime (t : Instant) : Prop where
  year : t.HasFourDigitYear
  regular : t.IsRegular

/-- What a clock shows is a date-time. -/
theorem IsReading.isDateTime {t : Instant} (h : t.IsReading) : t.IsDateTime :=
  ⟨h.1, Or.inl h.2⟩

/-- An instant lies in one of the 24 hours of the day that its date counts. -/
theorem hour_bounds (t : Instant) : t.secondOfDay / 3600 < 24
    ∧ t.date.dayNumber * 86400 + (t.secondOfDay / 3600 : Nat) * 3600 ≤ t.second
    ∧ t.second < t.date.dayNumber * 86400 + ((t.secondOfDay / 3600 : Nat) + 1) * 3600 := by
  have hday : t.date.dayNumber = t.dayNumber := Date.dayNumber_ofDayNumber t.dayNumber
  have hsecond := second_eq t
  have hlt := secondOfDay_lt t
  rw [hday]
  exact ⟨by omega, by omega, by omega⟩

/-- Stamps of date-times have one width, and the order of their bytes is that of the times up to
    the millisecond.  A stamp shows the date of the calendar and the hour in which the time lies, and
    the time is read back from it up to the millisecond, with the same stamp. -/
theorem stamp_tells {t u : Instant} (ht : t.IsDateTime) (hu : u.IsDateTime) :
    t.stamp.length = 24 ∧ (Text.bytes t.stamp).length = 24
      ∧ (Text.bytes t.stamp ≤ Text.bytes u.stamp ↔ t.truncate ≤ u.truncate)
      ∧ (∃ (d : Date) (hour : Nat), d.IsValid ∧ hour < 24
        ∧ d.dayNumber * 86400 + hour * 3600 ≤ t.second
        ∧ t.second < d.dayNumber * 86400 + (hour + 1) * 3600
        ∧ String.ofList (t.stamp.toList.take 10) = d.render
        ∧ (t.stamp.toList.drop 11).take 2 = padded 2 hour)
      ∧ ofStored? t.stamp = some t.truncate
      ∧ t.truncate.stamp = t.stamp := by
  refine ⟨length_stamp ht.year, length_bytes_stamp ht.year, ?_, ?_, ?_, ?_⟩
  · rw [bytes_stamp_le_iff ht.year hu.year, ht.regular.stamped_eq, hu.regular.stamped_eq]
  · obtain ⟨hhour, hlow, hhigh⟩ := hour_bounds t
    exact ⟨t.date, t.secondOfDay / 3600, Date.isValid_ofDayNumber t.dayNumber, hhour, hlow, hhigh,
      take_stamp ht.year, take_drop_stamp ht.year⟩
  · rw [ofStored?, ofRfc3339?_stamp ht.year, ht.regular.stamped_eq]
    rfl
  · rw [← ht.regular.stamped_eq, stamp_stamped]

/-- Half a second and some nanoseconds into the leap second at the end of 2016. -/
def endOf2016 : Instant := ⟨1483228799, 1500000007⟩

/-- The leap second is shown as such and comes before midnight. -/
theorem stamp_tells_endOf2016 :
    let midnight : Instant := ⟨1483228800, 0⟩
    endOf2016.IsDateTime ∧ midnight.IsDateTime
      ∧ endOf2016.stamp = "2016-12-31T23:59:60.500Z" ∧ endOf2016.stamp.length = 24
      ∧ Text.bytes endOf2016.stamp ≤ Text.bytes midnight.stamp
      ∧ ¬ Text.bytes midnight.stamp ≤ Text.bytes endOf2016.stamp
      ∧ ofStored? endOf2016.stamp = some ⟨1483228799, 1500000000⟩ := by
  have hleap : endOf2016.IsDateTime := ⟨by decide, by decide⟩
  have hmidnight : (⟨1483228800, 0⟩ : Instant).IsDateTime := IsReading.isDateTime (by decide)
  obtain ⟨hlength, -, horder, -, hread, -⟩ := stamp_tells hleap hmidnight
  obtain ⟨-, -, hback, -⟩ := stamp_tells hmidnight hleap
  exact ⟨hleap, hmidnight, by decide, hlength, horder.mpr (by decide),
    fun hle => absurd (hback.mp hle) (by decide), hread⟩

end Instant

end RobotMaze.Time
