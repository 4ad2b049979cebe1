import RobotMaze.Proofs.Text.Digits
import RobotMaze.Proofs.Time.Calendar
import RobotMaze.Time.Printer

/-! # Stamps — times as the store keeps them

    A stamp is cut off at the millisecond, so it is read back as another instant
    (`Instant.stamped`).  What holds of it:

    * `ofRfc3339?_secondChars` — a text of an instant is read field by field, with
      any places of the second;
    * `ofRfc3339?_stamp` — the stamp of a year with four digits is read back,
      as that instant;
    * `stamp_stamped` — whose stamp is the same text.

    A row that is read and written again therefore keeps its times. -/

namespace RobotMaze.Time

open Decimal (padded)

namespace Instant

/-- The year of an instant is written with four digits and no sign. -/
def HasFourDigitYear (t : Instant) : Prop := 0 ≤ t.date.year ∧ t.date.year ≤ 9999

instance (t : Instant) : Decidable t.HasFourDigitYear :=
  inferInstanceAs (Decidable (0 ≤ t.date.year ∧ t.date.year ≤ 9999))

/-- Whole milliseconds of the second, as nanoseconds. -/
def milliNanos (t : Instant) : Nat := t.nano % nanosPerSecond / 1000000 * 1000000

/-- The instant as which a text of an instant is read back that shows some of its nanoseconds.  A
    leap second within a minute is the second after it. -/
def shown (t : Instant) (nano : Nat) : Instant :=
  if nanosPerSecond ≤ t.nano then
    if t.secondOfDay % 60 = 59 then ⟨t.second, nano + nanosPerSecond⟩
    else ⟨t.second + 1, nano⟩
  else ⟨t.second, nano⟩

/-- The instant as which a stamp is read back.  A leap second within a minute is the second after
    it. -/
def stamped (t : Instant) : Instant :=
  if nanosPerSecond ≤ t.nano then
    if t.secondOfDay % 60 = 59 then ⟨t.second, t.milliNanos + nanosPerSecond⟩
    else ⟨t.second + 1, t.milliNanos⟩
  else ⟨t.second, t.milliNanos⟩

theorem milliNanos_lt (t : Instant) : t.milliNanos < nanosPerSecond := by
  simp only [milliNanos, nanosPerSecond]
  omega

theorem secondOfDay_lt (t : Instant) : t.secondOfDay < 86400 := by
  simp only [secondOfDay, secondsPerDay]
  omega

/-- An instant is its day and the seconds into it. -/
theorem second_eq (t : Instant) : t.second = t.dayNumber * 86400 + t.secondOfDay := by
  simp only [dayNumber, secondOfDay, secondsPerDay]
  omega

/-- A time of the years 1 to 9999. -/
def InCommonEra (t : Instant) : Prop := 1 ≤ t.date.year ∧ t.date.year ≤ 9999

instance (t : Instant) : Decidable t.InCommonEra :=
  inferInstanceAs (Decidable (1 ≤ t.date.year ∧ t.date.year ≤ 9999))

theorem InCommonEra.hasFourDigitYear {t : Instant} (h : t.InCommonEra) : t.HasFourDigitYear :=
  ⟨Int.le_trans (by decide) h.1, h.2⟩

/-- The days of the year before a day of these years have years of four digits as well. -/
theorem InCommonEra.yearBefore {t u : Instant} (ht : t.InCommonEra)
    (hlow : t.dayNumber - 366 ≤ u.dayNumber) (hhigh : u.dayNumber ≤ t.dayNumber) :
    u.HasFourDigitYear := by
  refine ⟨?_, Int.le_trans (Date.year_le_of_le hhigh) ht.2⟩
  have hvalid : ∀ v : Instant, v.date.IsValid := fun v => Date.isValid_ofDayNumber v.dayNumber
  have hnumber : ∀ v : Instant, v.date.dayNumber = v.dayNumber := fun v =>
    Date.dayNumber_ofDayNumber v.dayNumber
  rcases Int.lt_or_le u.date.year 0 with hnegative | hyear
  · -- the year 0 would lie between the two days, and it has 366 of them
    have hbelow : u.date.dayNumber < (Date.mk 0 1 1).dayNumber :=
      Int.lt_of_lt_of_le (hvalid u).dayNumber_lt_january (Date.january_le (by omega))
    have habove : (Date.mk 1 1 1).dayNumber ≤ t.date.dayNumber :=
      Int.le_trans (Date.january_le ht.1) (hvalid t).january_le_dayNumber
    have hleap : (Date.mk 1 1 1).dayNumber = (Date.mk 0 1 1).dayNumber + 366 := by decide
    rw [hnumber] at hbelow habove
    omega
  · exact hyear

end Instant

/-! ## Reading the fields -/

/-- The text of fields that have their widths. -/
def fieldChars (year month day hour minute second milli : Nat) : List Char :=
  padded 4 year ++ '-' :: (padded 2 month ++ '-' :: (padded 2 day ++ 'T' :: (padded 2 hour
    ++ ':' :: (padded 2 minute ++ ':' :: (padded 2 second ++ '.' :: (padded 3 milli ++ ['Z']))))))

/-- A point and places of the second are read as nanoseconds. -/
theorem readFraction_padded {width n : Nat} (hwidth : 0 < width) (hmost : width ≤ 9)
    (hn : n < 10 ^ width) :
    readFraction ('.' :: (padded width n ++ ['Z'])) = some (n * 10 ^ (9 - width), ['Z']) := by
  have hlength := Decimal.length_padded hwidth hn
  have hread : readNumber 1 9 (padded width n ++ ['Z']) = some (n, ['Z']) := by
    rw [readNumber_append (fun _ => Decimal.isDigit_of_mem_padded) (by omega) (by omega)
      (Or.inr ⟨'Z', [], rfl, by decide⟩), Decimal.ofDigits_padded]
  simp only [readFraction]
  simp only [hread, List.length_append, hlength]
  rfl

theorem readSeparator_letter (rest : List Char) : readSeparator ('T' :: rest) = some rest := rfl

theorem readOffset_letter : readOffset (readChar ':') ['Z'] = some (0, []) := rfl

/-! ## Reading a stamp -/

/-- A date of the calendar has one of twelve months and a day up to the 31st. -/
theorem Date.IsValid.bounds {d : Date} (h : d.IsValid) :
    1 ≤ d.month ∧ d.month ≤ 12 ∧ d.day ≤ 31 := by
  obtain ⟨hfirst, hlast⟩ := h
  simp only [daysInMonth] at hlast
  split at hlast <;> first | omega | (split at hlast <;> omega)

namespace Instant

/-- A stamp has fields with their widths. -/
theorem stamp_eq {t : Instant} (hyear : t.HasFourDigitYear) :
    t.stamp = String.ofList (fieldChars t.date.year.toNat t.date.month t.date.day
      (t.secondOfDay / 3600) (t.secondOfDay / 60 % 60)
      (t.secondOfDay % 60 + if nanosPerSecond ≤ t.nano then 1 else 0)
      (t.nano % nanosPerSecond / 1000000)) := by
  simp only [stamp, secondChars, Date.chars, yearChars, clockChars, fieldChars]
  rw [if_pos (show 0 ≤ t.date.year ∧ t.date.year ≤ 9999 from hyear)]
  simp only [List.append_assoc, List.cons_append]

/-- The date of an instant has a month and a day of the calendar. -/
theorem date_bounds (t : Instant) : 1 ≤ t.date.month ∧ t.date.month ≤ 12 ∧ t.date.day ≤ 31 :=
  (Date.isValid_ofDayNumber t.dayNumber).bounds

/-- The calendar reaches every instant on the day of a year with four digits. -/
theorem inRange_of_hasFourDigitYear {t u : Instant} (hyear : t.HasFourDigitYear)
    (hday : u.dayNumber = t.dayNumber) : u.inRange = true := by
  obtain ⟨hlow, hhigh⟩ := hyear
  obtain ⟨hmonthLow, hmonthHigh, hdayHigh⟩ := date_bounds t
  have hnumber : t.date.dayNumber = t.dayNumber := Date.dayNumber_ofDayNumber _
  have hsecond := second_eq u
  have hlt := secondOfDay_lt u
  have hfirst : firstSecond = -8334601228800 := by decide
  have hlast : lastSecond = 8210266876799 := by decide
  simp only [inRange]
  rw [hfirst, hlast]
  simp only [Bool.and_eq_true, decide_eq_true_eq]
  simp only [Date.dayNumber, Date.epochShift] at hnumber
  by_cases hmonth : t.date.month ≤ 2
  · simp only [if_pos hmonth] at hnumber
    omega
  · simp only [if_neg hmonth] at hnumber
    omega

/-- The date of a year with four digits is one of the calendar. -/
theorem of?_date {t : Instant} (hyear : t.HasFourDigitYear) :
    Date.of? t.date.year t.date.month t.date.day = some t.date := by
  obtain ⟨hlow, hhigh⟩ := hyear
  simp only [Date.of?]
  unfold Date.firstYear Date.lastYear
  rw [if_pos ⟨by omega, by omega, Date.isValid_ofDayNumber t.dayNumber⟩]

/-- The day of an instant does not change within that day. -/
theorem dayNumber_onDay (day : Int) {second : Nat} (hsecond : second < 86400) (nano : Nat) :
    (onDay day second nano).dayNumber = day := by
  simp only [onDay, dayNumber, secondsPerDay]
  show (day * 86400 + (second : Int)) / 86400 = day
  omega

theorem secondOfDay_onDay (day : Int) {second : Nat} (hsecond : second < 86400) (nano : Nat) :
    (onDay day second nano).secondOfDay = second := by
  simp only [onDay, secondOfDay, secondsPerDay]
  show ((day * 86400 + (second : Int)) % 86400).toNat = second
  omega

theorem nano_onDay (day : Int) (second nano : Nat) : (onDay day second nano).nano = nano := rfl

/-- What is read of a text lies on the day of the instant, at the second that the text shows. -/
theorem shown_cases (t : Instant) (nano : Nat) :
    (t.nano < nanosPerSecond ∧ t.shown nano = onDay t.dayNumber t.secondOfDay nano)
    ∨ (nanosPerSecond ≤ t.nano ∧ t.secondOfDay % 60 = 59
      ∧ t.shown nano = onDay t.dayNumber t.secondOfDay (nano + nanosPerSecond))
    ∨ (nanosPerSecond ≤ t.nano ∧ t.secondOfDay % 60 ≠ 59
      ∧ t.shown nano = onDay t.dayNumber (t.secondOfDay + 1) nano) := by
  have hsecond : t.dayNumber * secondsPerDay + (t.secondOfDay : Int) = t.second :=
    (second_eq t).symm
  simp only [shown, onDay]
  by_cases hleap : nanosPerSecond ≤ t.nano
  · by_cases hlast : t.secondOfDay % 60 = 59
    · refine Or.inr (Or.inl ⟨hleap, hlast, ?_⟩)
      rw [if_pos hleap, if_pos hlast, hsecond]
    · refine Or.inr (Or.inr ⟨hleap, hlast, ?_⟩)
      rw [if_pos hleap, if_neg hlast, Int.natCast_add, ← Int.add_assoc, hsecond]
      rfl
  · refine Or.inl ⟨by omega, ?_⟩
    rw [if_neg hleap, hsecond]

theorem stamped_eq_shown (t : Instant) : t.stamped = t.shown t.milliNanos := rfl

/-- The fields that a text of an instant shows, with some of its nanoseconds. -/
def fields (t : Instant) (nano : Nat) : Fields where
  year := t.date.year
  month := t.date.month
  day := t.date.day
  hour := t.secondOfDay / 3600
  minute := t.secondOfDay / 60 % 60
  second := t.secondOfDay % 60 + if nanosPerSecond ≤ t.nano then 1 else 0
  nano := nano
  offset := 0

/-- The fields that a text shows are those of the instant as which it is read back. -/
theorem instant?_fields {t : Instant} (hyear : t.HasFourDigitYear) (nano : Nat) :
    (t.fields nano).instant? = some (t.shown nano) := by
  have hlt := secondOfDay_lt t
  have hday : t.date.dayNumber = t.dayNumber := Date.dayNumber_ofDayNumber _
  show (Fields.mk t.date.year t.date.month t.date.day (t.secondOfDay / 3600)
    (t.secondOfDay / 60 % 60) (t.secondOfDay % 60 + if nanosPerSecond ≤ t.nano then 1 else 0) nano
    0).instant? = some (t.shown nano)
  simp only [Fields.instant?]
  rw [of?_date hyear]
  simp only [Option.bind_eq_bind, Option.bind_some, Int.sub_zero, hday]
  rw [if_pos ⟨by omega, by omega, by split <;> omega, by decide⟩]
  have hchecked : ∀ second nano, second < 86400 →
      checked? (onDay t.dayNumber second nano) = some (onDay t.dayNumber second nano) := by
    intro second nano hsecond
    simp only [checked?]
    rw [if_pos (inRange_of_hasFourDigitYear hyear (dayNumber_onDay _ hsecond _))]
  have hclock : t.secondOfDay / 3600 * 3600 + t.secondOfDay / 60 % 60 * 60 + t.secondOfDay % 60
      = t.secondOfDay := by omega
  -- no leap second, one at the end of a minute, which is read as second 60, and one within it
  rcases shown_cases t nano with ⟨hplain, heq⟩ | ⟨hleap, hlast, heq⟩ | ⟨hleap, hlast, heq⟩
  · rw [if_neg (Nat.not_le.mpr hplain), Nat.add_zero, if_neg (by omega), if_neg (by omega), hclock,
      heq]
    exact hchecked _ _ hlt
  · rw [if_pos hleap, if_pos (by omega), if_pos (by omega), ← hlast, hclock, heq]
    exact hchecked _ _ hlt
  · rw [if_pos hleap, if_neg (by omega), if_neg (by omega), ← Nat.add_assoc, hclock, heq]
    exact hchecked _ _ (by omega)

/-- Date and time of day have fields with their widths. -/
theorem secondChars_eq {t : Instant} (hyear : t.HasFourDigitYear) :
    t.secondChars = padded 4 t.date.year.toNat ++ '-' :: (padded 2 t.date.month
      ++ '-' :: (padded 2 t.date.day ++ 'T' :: (padded 2 (t.secondOfDay / 3600)
      ++ ':' :: (padded 2 (t.secondOfDay / 60 % 60) ++ ':' :: padded 2 (t.secondOfDay % 60
        + if nanosPerSecond ≤ t.nano then 1 else 0))))) := by
  simp only [secondChars, Date.chars, yearChars, clockChars]
  rw [if_pos (show 0 ≤ t.date.year ∧ t.date.year ≤ 9999 from hyear)]
  simp only [List.append_assoc, List.cons_append]

/-- A text of an instant is read field by field, whatever form its places of the second have. -/
theorem ofRfc3339?_secondChars {t : Instant} (hyear : t.HasFourDigitYear) {fraction : List Char}
    {nano : Nat} (hfraction : readFraction (fraction ++ ['Z']) = some (nano, ['Z'])) :
    ofRfc3339? (String.ofList (t.secondChars ++ fraction ++ ['Z'])) = some (t.shown nano) := by
  obtain ⟨hmonthLow, hmonthHigh, hdayHigh⟩ := date_bounds t
  have hlt := secondOfDay_lt t
  obtain ⟨hlow, hhigh⟩ := hyear
  have hread : ((t.date.year.toNat : Nat) : Int) = t.date.year := Int.toNat_of_nonneg hlow
  have hdash : ∀ rest, readChar '-' ('-' :: rest) = some rest := fun _ => rfl
  have hcolon : ∀ rest, readChar ':' (':' :: rest) = some rest := fun _ => rfl
  have hpair : ∀ {n : Nat}, n < 10 ^ 2 → ∀ rest,
      readNumber 2 2 (padded 2 n ++ rest) = some (n, rest) :=
    fun hn => readNumber_padded (by decide) hn
  have hyear := readNumber_padded (by decide : 0 < 4) (by omega : t.date.year.toNat < 10 ^ 4)
  have hmonth := hpair (by omega : t.date.month < 10 ^ 2)
  have hday := hpair (by omega : t.date.day < 10 ^ 2)
  have hhour := hpair (by omega : t.secondOfDay / 3600 < 10 ^ 2)
  have hminute := hpair (by omega : t.secondOfDay / 60 % 60 < 10 ^ 2)
  have hsecond := hpair (by split <;> omega :
    (t.secondOfDay % 60 + if nanosPerSecond ≤ t.nano then 1 else 0) < 10 ^ 2)
  simp only [ofRfc3339?]
  rw [String.toList_ofList, secondChars_eq ⟨hlow, hhigh⟩]
  simp only [List.append_assoc, List.cons_append]
  -- the fields and what stands between them, in the order of the text
  refine Option.bind_eq_some_iff.mpr ⟨_, hyear _, ?_⟩
  refine Option.bind_eq_some_iff.mpr ⟨_, hdash _, ?_⟩
  refine Option.bind_eq_some_iff.mpr ⟨_, hmonth _, ?_⟩
  refine Option.bind_eq_some_iff.mpr ⟨_, hdash _, ?_⟩
  refine Option.bind_eq_some_iff.mpr ⟨_, hday _, ?_⟩
  refine Option.bind_eq_some_iff.mpr ⟨_, readSeparator_letter _, ?_⟩
  refine Option.bind_eq_some_iff.mpr ⟨_, hhour _, ?_⟩
  refine Option.bind_eq_some_iff.mpr ⟨_, hcolon _, ?_⟩
  refine Option.bind_eq_some_iff.mpr ⟨_, hminute _, ?_⟩
  refine Option.bind_eq_some_iff.mpr ⟨_, hcolon _, ?_⟩
  refine Option.bind_eq_some_iff.mpr ⟨_, hsecond _, ?_⟩
  refine Option.bind_eq_some_iff.mpr ⟨_, hfraction, ?_⟩
  refine Option.bind_eq_some_iff.mpr ⟨_, readOffset_letter, ?_⟩
  simp only [hread]
  exact instant?_fields ⟨hlow, hhigh⟩ nano

/-- The stamp of a year with four digits is read back, up to what is finer than a millisecond. -/
theorem ofRfc3339?_stamp {t : Instant} (hyear : t.HasFourDigitYear) :
    ofRfc3339? t.stamp = some t.stamped := by
  have hmilli : t.nano % nanosPerSecond / 1000000 < 10 ^ 3 := by
    simp only [nanosPerSecond]
    omega
  exact ofRfc3339?_secondChars hyear (readFraction_padded (by decide) (by decide) hmilli)

theorem stamp_ne_empty (t : Instant) : t.stamp ≠ "" := by
  simp [stamp]

/-- A stamp depends on the day, the clock and the whole milliseconds only. -/
theorem stamp_congr {t u : Instant} (hday : u.dayNumber = t.dayNumber)
    (hclock : u.clockChars = t.clockChars)
    (hmilli : u.nano % nanosPerSecond / 1000000 = t.nano % nanosPerSecond / 1000000) :
    u.stamp = t.stamp := by
  simp only [stamp, secondChars, date]
  rw [hday, hclock, hmilli]

/-- Reading a stamp does not change its text. -/
theorem stamp_stamped (t : Instant) : t.stamped.stamp = t.stamp := by
  have hlt := secondOfDay_lt t
  have hnano := milliNanos_lt t
  have hmilli : t.milliNanos % nanosPerSecond / 1000000 = t.nano % nanosPerSecond / 1000000 := by
    simp only [milliNanos, nanosPerSecond]
    omega
  rw [stamped_eq_shown]
  rcases shown_cases t t.milliNanos with ⟨hplain, heq⟩ | ⟨hleap, hlast, heq⟩ | ⟨hleap, hlast, heq⟩
  · rw [heq]
    refine stamp_congr (dayNumber_onDay _ hlt _) ?_ hmilli
    simp only [clockChars]
    rw [secondOfDay_onDay _ hlt, if_neg (Nat.not_le.mpr hplain)]
    rw [nano_onDay, if_neg (Nat.not_le.mpr hnano)]
  · rw [heq]
    refine stamp_congr (dayNumber_onDay _ hlt _) ?_ ?_
    · simp only [clockChars]
      rw [secondOfDay_onDay _ hlt, if_pos hleap]
      rw [nano_onDay, if_pos (Nat.le_add_left _ _)]
    · rw [nano_onDay, Nat.add_mod_right, hmilli]
  · have hnext : t.secondOfDay + 1 < 86400 := by omega
    rw [heq]
    refine stamp_congr (dayNumber_onDay _ hnext _) ?_ hmilli
    simp only [clockChars]
    rw [secondOfDay_onDay _ hnext, if_pos hleap]
    rw [nano_onDay, if_neg (Nat.not_le.mpr hnano)]
    -- the leap second within a minute is written as the second after it
    have hhour : (t.secondOfDay + 1) / 3600 = t.secondOfDay / 3600 := by omega
    have hminute : (t.secondOfDay + 1) / 60 = t.secondOfDay / 60 := by omega
    have hsecond : (t.secondOfDay + 1) % 60 = t.secondOfDay % 60 + 1 := by omega
    simp only [hhour, hminute, hsecond, Nat.add_zero]

end Instant

end RobotMaze.Time
