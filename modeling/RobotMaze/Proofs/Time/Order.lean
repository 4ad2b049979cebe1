import RobotMaze.Proofs.Time.Stamp

/-! # The order of stamps

    The store compares times as texts.  That is the order of what is read of the
    texts, and for what a clock shows, of the instants themselves, up to the
    millisecond:

    * `fieldChars_lt` — the first field that differs decides;
    * `stamped_cases` — what is read of a stamp is what it shows;
    * `stamp_le_stamp_iff_stamped` — so a comparison of stamps is one of what is read
      of them;
    * `stamp_le_stamp_iff` — and of readings one of the instants;
    * `bytes_stamp_le_iff` — the bytes of the texts are compared to the same end. -/

namespace RobotMaze

/-! ## Bytes -/

namespace Text

/-- The bytes of a text. -/
def bytes (s : String) : List UInt8 := s.toUTF8.data.toList

/-- Characters of one byte each. -/
def IsAscii (cs : List Char) : Prop := ∀ c ∈ cs, c.toNat < 128

/-- The byte of such a character is its number. -/
def byte (c : Char) : UInt8 := c.val.toUInt8

section Ascii

variable {c d : Char} {cs ds : List Char}

theorem IsAscii.append (hcs : IsAscii cs) (hds : IsAscii ds) : IsAscii (cs ++ ds) := by
  intro c hc
  rcases List.mem_append.mp hc with h | h
  · exact hcs c h
  · exact hds c h

theorem IsAscii.cons (hc : c.toNat < 128) (hcs : IsAscii cs) : IsAscii (c :: cs) := by
  intro d hd
  rcases List.mem_cons.mp hd with rfl | h
  · exact hc
  · exact hcs d h

theorem IsAscii.tail (h : IsAscii (c :: cs)) : IsAscii cs := fun d hd =>
  h d (List.mem_cons_of_mem c hd)

/-- A text of one-byte characters has their bytes. -/
theorem bytes_ofList (h : IsAscii cs) : bytes (String.ofList cs) = cs.map byte := by
  have hencode : cs.flatMap String.utf8EncodeChar = cs.map byte := by
    induction cs with
    | nil => rfl
    | cons c cs ih =>
        have hc : c.utf8Size = 1 := by
          rw [Char.utf8Size_eq_one_iff, UInt32.le_iff_toNat_le]
          exact Nat.le_of_lt_succ (h c List.mem_cons_self)
        rw [List.flatMap_cons, String.utf8EncodeChar_eq_singleton hc, List.map_cons, ih h.tail]
        rfl
  rw [bytes, String.toUTF8_eq_toByteArray, String.toByteArray_ofList, List.utf8Encode, hencode]
  simp

/-- The number of such a byte is that of its character. -/
theorem toNat_byte (hc : c.toNat < 128) : (byte c).toNat = c.toNat := by
  rw [byte, UInt32.toNat_toUInt8]
  exact Nat.mod_eq_of_lt (Nat.lt_trans hc (by decide))

/-- Characters of one byte each are ordered as their bytes are. -/
theorem map_byte_lt_iff (hcs : IsAscii cs) (hds : IsAscii ds) :
    cs.map byte < ds.map byte ↔ cs < ds := by
  induction cs generalizing ds with
  | nil => cases ds <;> simp
  | cons c cs ih =>
      cases ds with
      | nil => simp
      | cons d ds =>
          have hc := toNat_byte (hcs c List.mem_cons_self)
          have hd := toNat_byte (hds d List.mem_cons_self)
          have hlt : byte c < byte d ↔ c < d := by
            rw [UInt8.lt_iff_toNat_lt, hc, hd]
            exact Iff.rfl
          have heq : byte c = byte d ↔ c = d := by
            rw [← UInt8.toNat_inj, hc, hd, Char.toNat_inj]
          rw [List.map_cons, List.map_cons, List.cons_lt_cons_iff, List.cons_lt_cons_iff, hlt, heq,
            ih hcs.tail hds.tail]

/-- Texts of characters of one byte each are in the order of their bytes. -/
theorem bytes_le_iff {s t : String} (hs : IsAscii s.toList) (ht : IsAscii t.toList) :
    bytes s ≤ bytes t ↔ s ≤ t := by
  have hbytes : ∀ {s : String}, IsAscii s.toList → bytes s = s.toList.map byte := fun {s} h => by
    rw [← bytes_ofList h, String.ofList_toList]
  rw [hbytes hs, hbytes ht, ← String.not_lt, String.lt_iff, ← map_byte_lt_iff ht hs]
  exact Iff.rfl

end Ascii

end Text

namespace Time

open Decimal (padded padded_append_lt)
open Text (IsAscii)

/-! ## Texts -/

/-- A padded number has one-byte characters. -/
theorem isAscii_padded (width n : Nat) : IsAscii (padded width n) := by
  intro c hc
  have hdigit := Decimal.isDigit_of_mem_padded hc
  simp only [Char.isDigit, Bool.and_eq_true, decide_eq_true_eq] at hdigit
  exact Nat.lt_of_le_of_lt hdigit.2 (by decide)

/-- The text of a date and a time of day has digits, and letters between them. -/
theorem isAscii_fieldChars (year month day hour minute second milli : Nat) :
    IsAscii (fieldChars year month day hour minute second milli) := by
  simp only [fieldChars]
  refine (isAscii_padded _ _).append (.cons (by decide) ?_)
  refine (isAscii_padded _ _).append (.cons (by decide) ?_)
  refine (isAscii_padded _ _).append (.cons (by decide) ?_)
  refine (isAscii_padded _ _).append (.cons (by decide) ?_)
  refine (isAscii_padded _ _).append (.cons (by decide) ?_)
  refine (isAscii_padded _ _).append (.cons (by decide) ?_)
  refine (isAscii_padded _ _).append (.cons (by decide) ?_)
  intro c hc
  cases hc

/-- Texts of fields that have their widths are ordered by the first field that differs. -/
theorem fieldChars_lt {year month day hour minute second milli : Nat}
    {year' month' day' hour' minute' second' milli' : Nat}
    (hyear : year' < 10 ^ 4) (hmonth : month' < 10 ^ 2) (hday : day' < 10 ^ 2)
    (hhour : hour' < 10 ^ 2) (hminute : minute' < 10 ^ 2) (hsecond : second' < 10 ^ 2)
    (hmilli : milli' < 10 ^ 3)
    (h : [year, month, day, hour, minute, second, milli]
      < [year', month', day', hour', minute', second', milli']) :
    fieldChars year month day hour minute second milli
      < fieldChars year' month' day' hour' minute' second' milli' := by
  simp only [List.cons_lt_cons_iff] at h
  simp only [fieldChars]
  refine padded_append_lt (by decide) hyear (h.imp_right (And.imp_right fun h => ?_))
  refine List.cons_lt_cons_self.mpr ?_
  refine padded_append_lt (by decide) hmonth (h.imp_right (And.imp_right fun h => ?_))
  refine List.cons_lt_cons_self.mpr ?_
  refine padded_append_lt (by decide) hday (h.imp_right (And.imp_right fun h => ?_))
  refine List.cons_lt_cons_self.mpr ?_
  refine padded_append_lt (by decide) hhour (h.imp_right (And.imp_right fun h => ?_))
  refine List.cons_lt_cons_self.mpr ?_
  refine padded_append_lt (by decide) hminute (h.imp_right (And.imp_right fun h => ?_))
  refine List.cons_lt_cons_self.mpr ?_
  refine padded_append_lt (by decide) hsecond (h.imp_right (And.imp_right fun h => ?_))
  refine List.cons_lt_cons_self.mpr ?_
  refine padded_append_lt (by decide) hmilli (h.imp_right (And.imp_right fun h => ?_))
  cases h

namespace Instant

/-- What a system clock shows: a year with four digits, and never a leap second. -/
def IsReading (t : Instant) : Prop := t.HasFourDigitYear ∧ t.nano < nanosPerSecond

instance (t : Instant) : Decidable t.IsReading :=
  inferInstanceAs (Decidable (t.HasFourDigitYear ∧ t.nano < nanosPerSecond))

theorem not_lt {t u : Instant} : ¬ t < u ↔ u ≤ t := by
  show ¬ (t.second < u.second ∨ (t.second = u.second ∧ t.nano < u.nano))
    ↔ u.second < t.second ∨ (u.second = t.second ∧ u.nano ≤ t.nano)
  omega

theorem not_le {t u : Instant} : ¬ t ≤ u ↔ u < t := by
  rw [← not_lt, Classical.not_not]

protected theorem le_trans {t u v : Instant} (htu : t ≤ u) (huv : u ≤ v) : t ≤ v := by
  have htu : t.second < u.second ∨ (t.second = u.second ∧ t.nano ≤ u.nano) := htu
  have huv : u.second < v.second ∨ (u.second = v.second ∧ u.nano ≤ v.nano) := huv
  show t.second < v.second ∨ (t.second = v.second ∧ t.nano ≤ v.nano)
  omega

protected theorem le_antisymm {t u : Instant} (htu : t ≤ u) (hut : u ≤ t) : t = u := by
  have htu : t.second < u.second ∨ (t.second = u.second ∧ t.nano ≤ u.nano) := htu
  have hut : u.second < t.second ∨ (u.second = t.second ∧ u.nano ≤ t.nano) := hut
  obtain ⟨tsecond, tnano⟩ := t
  obtain ⟨usecond, unano⟩ := u
  simp only [Instant.mk.injEq]
  simp only at htu hut
  omega

/-- Leaving out what is below a millisecond goes back in time. -/
theorem truncate_le (t : Instant) : t.truncate ≤ t :=
  Or.inr ⟨rfl, Nat.div_mul_le_self _ _⟩

/-- A check changes no instant. -/
theorem eq_of_checked? {t u : Instant} (h : t.checked? = some u) : u = t := by
  simp only [checked?] at h
  split at h
  · exact (Option.some.inj h).symm
  · cases h

/-- A shift by whole seconds shifts the second. -/
theorem eq_of_addSeconds? {t u : Instant} {seconds : Int} (h : t.addSeconds? seconds = some u) :
    u = { t with second := t.second + seconds } :=
  eq_of_checked? h

/-- Adding seconds leaves what is below a second. -/
theorem nano_addSeconds? {t u : Instant} {seconds : Int} (h : t.addSeconds? seconds = some u) :
    u.nano = t.nano := by
  rw [eq_of_addSeconds? h]

/-- What is not a leap second is read back from its stamp without what is finer than a
    millisecond. -/
theorem stamped_eq_truncate {t : Instant} (h : t.nano < nanosPerSecond) :
    t.stamped = t.truncate := by
  simp only [stamped, milliNanos, truncate]
  rw [if_neg (Nat.not_le.mpr h), Nat.mod_eq_of_lt h]

/-- No leap second, or one with which a minute ends: an instant that a text can name. -/
def IsRegular (t : Instant) : Prop :=
  t.nano < nanosPerSecond ∨ (t.secondOfDay % 60 = 59 ∧ t.nano < 2 * nanosPerSecond)

instance (t : Instant) : Decidable t.IsRegular :=
  inferInstanceAs (Decidable (t.nano < nanosPerSecond
    ∨ (t.secondOfDay % 60 = 59 ∧ t.nano < 2 * nanosPerSecond)))

/-- An instant that a text can name is read as itself up to the millisecond. -/
theorem IsRegular.stamped_eq {t : Instant} (h : t.IsRegular) : t.stamped = t.truncate := by
  rcases h with hplain | ⟨hlast, hnano⟩
  · exact stamped_eq_truncate hplain
  · by_cases hplain : t.nano < nanosPerSecond
    · exact stamped_eq_truncate hplain
    · rw [stamped, if_pos (Nat.not_lt.mp hplain), if_pos hlast, truncate, milliNanos]
      simp only [nanosPerSecond] at hnano hplain ⊢
      refine congrArg (Instant.mk t.second) ?_
      omega

/-- The second that a stamp shows; a leap second at the end of a minute is its 60th. -/
def shownSecond (t : Instant) : Nat :=
  t.secondOfDay % 60 + if nanosPerSecond ≤ t.nano then 1 else 0

/-- The milliseconds that a stamp shows. -/
def shownMilli (t : Instant) : Nat := t.nano % nanosPerSecond / 1000000

theorem shownMilli_lt (t : Instant) : t.shownMilli < 1000 := by
  simp only [shownMilli, nanosPerSecond]
  omega

/-- A stamp is read as the second of its minute that it shows, or as the leap second after it. -/
theorem stamped_cases (t : Instant) :
    (t.shownSecond ≤ 59 ∧ t.stamped
      = onDay t.dayNumber (t.secondOfDay / 60 * 60 + t.shownSecond) (t.shownMilli * 1000000))
    ∨ (t.shownSecond = 60 ∧ t.stamped = onDay t.dayNumber (t.secondOfDay / 60 * 60 + 59)
        (t.shownMilli * 1000000 + nanosPerSecond)) := by
  rw [stamped_eq_shown]
  rcases shown_cases t t.milliNanos with ⟨hleap, heq⟩ | ⟨hleap, hlast, heq⟩ | ⟨hleap, hlast, heq⟩
  · have hshown : t.shownSecond = t.secondOfDay % 60 := by
      rw [shownSecond, if_neg (Nat.not_le.mpr hleap), Nat.add_zero]
    refine Or.inl ⟨by omega, ?_⟩
    rw [heq, hshown, Nat.div_add_mod']
    rfl
  · have hshown : t.shownSecond = t.secondOfDay % 60 + 1 := by rw [shownSecond, if_pos hleap]
    refine Or.inr ⟨by omega, ?_⟩
    rw [heq, ← hlast, Nat.div_add_mod']
    rfl
  · have hshown : t.shownSecond = t.secondOfDay % 60 + 1 := by rw [shownSecond, if_pos hleap]
    refine Or.inl ⟨by omega, ?_⟩
    rw [heq, hshown, ← Nat.add_assoc, Nat.div_add_mod']
    rfl

/-- The fields of a stamp, from the year down to the millisecond. -/
def stampFields (t : Instant) : List Nat :=
  [t.date.year.toNat, t.date.month, t.date.day, t.secondOfDay / 3600, t.secondOfDay / 60 % 60,
    t.shownSecond, t.shownMilli]

section Stamps

variable {t u : Instant}

/-- What is read of a stamp is earlier if the day is, or within the day the minute, and so on. -/
theorem earlier_of_stamped_lt (h : t.stamped < u.stamped) :
    t.dayNumber < u.dayNumber ∨ (t.dayNumber = u.dayNumber
      ∧ (t.secondOfDay / 60 < u.secondOfDay / 60 ∨ (t.secondOfDay / 60 = u.secondOfDay / 60
        ∧ (t.shownSecond < u.shownSecond ∨ (t.shownSecond = u.shownSecond
          ∧ t.shownMilli < u.shownMilli))))) := by
  have hlt : t.stamped.second < u.stamped.second ∨ (t.stamped.second = u.stamped.second
      ∧ t.stamped.nano < u.stamped.nano) := h
  have htday := secondOfDay_lt t
  have huday := secondOfDay_lt u
  have htmilli := shownMilli_lt t
  have humilli := shownMilli_lt u
  rcases stamped_cases t with ⟨htsecond, ht⟩ | ⟨htsecond, ht⟩ <;>
    rcases stamped_cases u with ⟨husecond, hu⟩ | ⟨husecond, hu⟩ <;>
    · simp only [ht, hu, onDay, nanosPerSecond, secondsPerDay] at hlt
      omega

variable (ht : t.HasFourDigitYear) (hu : u.HasFourDigitYear)
include ht hu

/-- The first field that differs is an earlier one, if what is read is earlier. -/
theorem fields_lt (h : t.stamped < u.stamped) : t.stampFields < u.stampFields := by
  obtain ⟨htyear, -⟩ := ht
  obtain ⟨huyear, -⟩ := hu
  simp only [stampFields, List.cons_lt_cons_iff]
  rcases earlier_of_stamped_lt h with hday | ⟨hday, hwithin⟩
  · -- an earlier day has an earlier date
    have hdate : t.date.Before u.date := Date.before_ofDayNumber hday
    simp only [Date.Before] at hdate
    omega
  · have hdate : t.date = u.date := congrArg Date.ofDayNumber hday
    rw [hdate]
    omega

/-- What is read as an earlier instant is an earlier text. -/
theorem stamp_lt_stamp (h : t.stamped < u.stamped) : t.stamp < u.stamp := by
  obtain ⟨hmonthLow, hmonthHigh, hdayHigh⟩ := date_bounds u
  have hday := secondOfDay_lt u
  have hmilli := shownMilli_lt u
  have hsecond : u.shownSecond ≤ 60 := by
    rcases stamped_cases u with ⟨hle, -⟩ | ⟨heq, -⟩ <;> omega
  have hyear : u.date.year ≤ 9999 := hu.2
  rw [String.lt_iff, stamp_eq ht, stamp_eq hu, String.toList_ofList, String.toList_ofList]
  exact fieldChars_lt (by omega) (by omega) (by omega) (by omega) (by omega)
    (Nat.lt_of_le_of_lt hsecond (by decide)) hmilli (fields_lt ht hu h)

/-- Stamps are in the order of what is read of them. -/
theorem stamp_le_stamp_iff_stamped : t.stamp ≤ u.stamp ↔ t.stamped ≤ u.stamped := by
  constructor
  · intro hle
    rw [← not_lt]
    intro hlt
    exact String.not_lt.mpr hle (stamp_lt_stamp hu ht hlt)
  · intro hle
    by_cases hlt : t.stamped < u.stamped
    · exact String.not_lt.mp (String.lt_asymm (stamp_lt_stamp ht hu hlt))
    · -- neither is earlier, so both are read as the same instant
      have hsame : t.stamped = u.stamped := Instant.le_antisymm hle (not_lt.mp hlt)
      have hstamp : t.stamp = u.stamp := by
        rw [← stamp_stamped t, ← stamp_stamped u, hsame]
      exact hstamp ▸ String.le_refl t.stamp

end Stamps

/-- A stamp of a year with four digits has one-byte characters. -/
theorem isAscii_stamp {t : Instant} (ht : t.HasFourDigitYear) : IsAscii t.stamp.toList := by
  rw [stamp_eq ht, String.toList_ofList]
  exact isAscii_fieldChars _ _ _ _ _ _ _

/-- The bytes of stamps are in that order too. -/
theorem bytes_stamp_le_iff {t u : Instant} (ht : t.HasFourDigitYear) (hu : u.HasFourDigitYear) :
    Text.bytes t.stamp ≤ Text.bytes u.stamp ↔ t.stamped ≤ u.stamped := by
  rw [Text.bytes_le_iff (isAscii_stamp ht) (isAscii_stamp hu), stamp_le_stamp_iff_stamped ht hu]

/-- Stamps of readings are in the order of the instants, up to the millisecond. -/
theorem stamp_le_stamp_iff {t u : Instant} (ht : t.IsReading) (hu : u.IsReading) :
    t.stamp ≤ u.stamp ↔ t.truncate ≤ u.truncate := by
  rw [stamp_le_stamp_iff_stamped ht.1 hu.1, stamped_eq_truncate ht.2, stamped_eq_truncate hu.2]

end Instant

end Time

end RobotMaze
