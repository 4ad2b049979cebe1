import RobotMaze.Proofs.Time.Stamp
import RobotMaze.Time.Printer

/-! # Written times — read back in full

    A time in a document is written with all of its places and read as RFC 3339
    or as a loose text.  Both readers find the same fields.

    * `ofRfc3339?_render`, `ofLoose?_render` — a time of a year with four digits is
      read back;
    * `ofExportDate?_render` — as an export date too;
    * `ofLoose?_stamped` — a stamped time is read back as what it is;
    * `hasFourDigitYear_of_ofStored?` — a stamp of any other year is not read from a
      store;
    * `Date.render_injective` — different days have different texts. -/

namespace RobotMaze.Time

open Decimal (padded)
open Text (isBlank)

/-! ## Loose numbers -/

theorem isBlank_of_isDigit {c : Char} (hc : c.isDigit = true) : isBlank c = false := by
  simp only [Char.isDigit, Bool.and_eq_true, decide_eq_true_eq] at hc
  have hlow : 48 ≤ c.toNat := hc.1
  have hhigh : c.toNat ≤ 57 := hc.2
  simp only [isBlank, Bool.or_eq_false_iff, Bool.and_eq_false_iff, decide_eq_false_iff_not,
    beq_eq_false_iff_ne]
  omega

/-- A number of a width begins with a digit. -/
theorem padded_begins (width n : Nat) :
    ∃ c more, padded width n = c :: more ∧ c.isDigit = true := by
  have hne : padded width n ≠ [] := by
    simp only [padded]
    rw [Decimal.toList_toString]
    exact List.append_ne_nil_of_right_ne_nil _ (List.ne_nil_of_length_pos Nat.length_toDigits_pos)
  obtain ⟨c, more, hcons⟩ := List.exists_cons_of_ne_nil hne
  exact ⟨c, more, hcons, Decimal.isDigit_of_mem_padded (hcons ▸ List.mem_cons_self)⟩

section Digits

variable {ds : List Char} (hdigits : ∀ c ∈ ds, c.isDigit = true)
include hdigits

theorem skipBlanks_digits (hds : 0 < ds.length) (rest : List Char) :
    skipBlanks (ds ++ rest) = ds ++ rest := by
  obtain ⟨c, more, rfl⟩ := List.exists_cons_of_length_pos hds
  simp [skipBlanks, isBlank_of_isDigit (hdigits c List.mem_cons_self)]

/-- A number of two digits is read where one digit would do. -/
theorem readPair_digits (hlength : ds.length = 2) (rest : List Char) :
    readPair (ds ++ rest) = some (Text.ofDigits ds, rest) := by
  simp only [readPair]
  rw [skipBlanks_digits hdigits (by omega), readNumber_append hdigits (by omega) (by omega)
    (Or.inl hlength)]

/-- A year of four digits is read where fewer would do. -/
theorem readYear_digits (hlength : ds.length = 4) (rest : List Char) :
    readYear (ds ++ rest) = some ((Text.ofDigits ds : Int), rest) := by
  have hread : readNumber 1 4 (ds ++ rest) = some (Text.ofDigits ds, rest) :=
    readNumber_append hdigits (by omega) (by omega) (Or.inl hlength)
  obtain ⟨c, more, rfl⟩ := List.exists_cons_of_length_pos (by omega : 0 < ds.length)
  have hdigit := hdigits c List.mem_cons_self
  simp only [readYear]
  rw [skipBlanks_digits hdigits (by omega)]
  rw [List.cons_append] at hread ⊢
  split
  · rename_i heq
    rw [(List.cons.inj heq).1] at hdigit
    exact absurd hdigit (by decide)
  · rename_i heq
    rw [(List.cons.inj heq).1] at hdigit
    exact absurd hdigit (by decide)
  · rw [hread]
    rfl

end Digits

theorem readPair_padded {n : Nat} (hn : n < 10 ^ 2) (rest : List Char) :
    readPair (padded 2 n ++ rest) = some (n, rest) := by
  rw [readPair_digits (fun _ => Decimal.isDigit_of_mem_padded)
    (Decimal.length_padded (by decide) hn), Decimal.ofDigits_padded]

theorem readYear_padded {n : Nat} (hn : n < 10 ^ 4) (rest : List Char) :
    readYear (padded 4 n ++ rest) = some ((n : Int), rest) := by
  rw [readYear_digits (fun _ => Decimal.isDigit_of_mem_padded)
    (Decimal.length_padded (by decide) hn), Decimal.ofDigits_padded]

namespace Instant

/-- The instant as which a text in full is read back: itself, unless it is a leap second within a
    minute. -/
def written (t : Instant) : Instant := t.shown (t.nano % nanosPerSecond)

/-- A time that is no leap second is read back as itself. -/
theorem written_eq {t : Instant} (h : t.nano < nanosPerSecond) : t.written = t := by
  simp only [written, shown]
  rw [if_neg (Nat.not_le.mpr h), Nat.mod_eq_of_lt h]

/-- The places of the second are read as the nanoseconds that they show. -/
theorem readFraction_fractionChars (t : Instant) :
    readFraction (t.fractionChars ++ ['Z']) = some (t.nano % nanosPerSecond, ['Z']) := by
  have hlt : t.nano % nanosPerSecond < 10 ^ 9 := Nat.mod_lt _ (by decide)
  simp only [fractionChars]
  generalize t.nano % nanosPerSecond = nano at hlt ⊢
  by_cases hzero : nano = 0
  · rw [if_pos hzero, hzero]
    rfl
  rw [if_neg hzero]
  by_cases hmilli : nano % 1000000 = 0
  · rw [if_pos hmilli, List.cons_append,
      readFraction_padded (by decide) (by decide) (by omega : nano / 1000000 < 10 ^ 3)]
    congr 2
    omega
  rw [if_neg hmilli]
  by_cases hmicro : nano % 1000 = 0
  · rw [if_pos hmicro, List.cons_append,
      readFraction_padded (by decide) (by decide) (by omega : nano / 1000 < 10 ^ 6)]
    congr 2
    omega
  · rw [if_neg hmicro, List.cons_append, readFraction_padded (by decide) (by decide) hlt]
    congr 2
    omega

theorem ofRfc3339?_render {t : Instant} (hyear : t.HasFourDigitYear) :
    ofRfc3339? t.render = some t.written :=
  ofRfc3339?_secondChars hyear t.readFraction_fractionChars

/-- Whatever may be left out or put in between, the fields of a written time are found. -/
theorem ofLoose?_render {t : Instant} (hyear : t.HasFourDigitYear) :
    ofLoose? t.render = some t.written := by
  obtain ⟨hmonthLow, hmonthHigh, hdayHigh⟩ := date_bounds t
  have hlt := secondOfDay_lt t
  obtain ⟨hlow, hhigh⟩ := hyear
  have hread : ((t.date.year.toNat : Nat) : Int) = t.date.year := Int.toNat_of_nonneg hlow
  have hdash : ∀ rest, readChar '-' (skipBlanks ('-' :: rest)) = some rest := fun _ => rfl
  have hcolon : ∀ rest, readChar ':' (skipBlanks (':' :: rest)) = some rest := fun _ => rfl
  have hyear := readYear_padded (by omega : t.date.year.toNat < 10 ^ 4)
  have hmonth := readPair_padded (by omega : t.date.month < 10 ^ 2)
  have hday := readPair_padded (by omega : t.date.day < 10 ^ 2)
  have hhour := readPair_padded (by omega : t.secondOfDay / 3600 < 10 ^ 2)
  have hminute := readPair_padded (by omega : t.secondOfDay / 60 % 60 < 10 ^ 2)
  have hsecond := readPair_padded (by split <;> omega :
    (t.secondOfDay % 60 + if nanosPerSecond ≤ t.nano then 1 else 0) < 10 ^ 2)
  rw [hread] at hyear
  simp only [ofLoose?, render]
  rw [String.toList_ofList, secondChars_eq ⟨hlow, hhigh⟩]
  simp only [List.append_assoc, List.cons_append]
  -- the fields and what stands between them, in the order of the text
  refine Option.bind_eq_some_iff.mpr ⟨_, hyear _, ?_⟩
  refine Option.bind_eq_some_iff.mpr ⟨_, hdash _, ?_⟩
  refine Option.bind_eq_some_iff.mpr ⟨_, hmonth _, ?_⟩
  refine Option.bind_eq_some_iff.mpr ⟨_, hdash _, ?_⟩
  refine Option.bind_eq_some_iff.mpr ⟨_, hday _, ?_⟩
  refine Option.bind_eq_some_iff.mpr ⟨_, readSeparator_letter _, ?_⟩
  refine Option.bind_eq_some_iff.mpr ⟨_, hhour _, ?_⟩
  refine Option.bind_eq_some_iff.mpr ⟨_, hcolon _, ?_⟩
  refine Option.bind_eq_some_iff.mpr ⟨_, hminute _, ?_⟩
  refine Option.bind_eq_some_iff.mpr ⟨_, hcolon _, ?_⟩
  refine Option.bind_eq_some_iff.mpr ⟨_, hsecond _, ?_⟩
  refine Option.bind_eq_some_iff.mpr ⟨_, t.readFraction_fractionChars, ?_⟩
  exact instant?_fields ⟨hlow, hhigh⟩ _

/-- A stamped time is written as what it is. -/
theorem written_stamped (t : Instant) : t.stamped.written = t.stamped := by
  have hlt := secondOfDay_lt t
  have hnano := milliNanos_lt t
  have hmod : t.milliNanos % nanosPerSecond = t.milliNanos := Nat.mod_eq_of_lt hnano
  rw [stamped_eq_shown]
  rcases shown_cases t t.milliNanos with ⟨-, heq⟩ | ⟨-, hlast, heq⟩ | ⟨-, -, heq⟩
  · rw [heq]
    simp only [written, shown, nano_onDay, if_neg (Nat.not_le.mpr hnano), hmod]
    rfl
  · rw [heq]
    simp only [written, shown, nano_onDay, if_pos (Nat.le_add_left _ _), secondOfDay_onDay _ hlt,
      hlast, if_true, Nat.add_mod_right, hmod]
    rfl
  · rw [heq]
    simp only [written, shown, nano_onDay, if_neg (Nat.not_le.mpr hnano), hmod]
    rfl

/-- A stamped time lies on the same day. -/
theorem dayNumber_stamped (t : Instant) : t.stamped.dayNumber = t.dayNumber := by
  have hlt := secondOfDay_lt t
  rw [stamped_eq_shown]
  rcases shown_cases t t.milliNanos with ⟨-, heq⟩ | ⟨-, -, heq⟩ | ⟨-, hlast, heq⟩
  · rw [heq, dayNumber_onDay _ hlt]
  · rw [heq, dayNumber_onDay _ hlt]
  · rw [heq, dayNumber_onDay _ (by omega)]

theorem date_stamped (t : Instant) : t.stamped.date = t.date :=
  congrArg Date.ofDayNumber t.dayNumber_stamped

/-- A stamped time is read back from either of its texts. -/
theorem ofLoose?_stamped {t : Instant} (hyear : t.HasFourDigitYear) :
    ofLoose? t.stamped.render = some t.stamped := by
  have hstamped : t.stamped.HasFourDigitYear := by
    simp only [HasFourDigitYear]
    rw [date_stamped]
    exact hyear
  rw [ofLoose?_render hstamped, written_stamped]

/-! ## Decoders -/

theorem decoder_string {s : String} {t : Instant} (h : ofLoose? s = some t) :
    decoder (.string s) = .ok t := by
  simp only [decoder, Json.Decoder.string, bind, Except.bind, h]
  rfl

theorem exportDecoder_string {s : String} {t : Instant} (h : ofExportDate? s = some t) :
    exportDecoder (.string s) = .ok t := by
  simp only [exportDecoder, Json.Decoder.string, bind, Except.bind, h]
  rfl

/-- A time of a year with four digits is accepted as an export date. -/
theorem ofExportDate?_render {t : Instant} (hyear : t.HasFourDigitYear) :
    ofExportDate? t.render = some t.written := by
  simp only [ofExportDate?]
  rw [ofRfc3339?_render hyear]
  rfl

end Instant

/-! ## Years with a sign -/

/-- A year with a sign is read from a loose text up to what follows its digits. -/
theorem readYear_signed {year : Int} (hyear : ¬(0 ≤ year ∧ year ≤ 9999)) (rest : List Char) :
    readYear (yearChars year ++ '-' :: rest) = some (year, '-' :: rest) := by
  obtain ⟨c, more, hcons, -⟩ := padded_begins 4 year.natAbs
  have hpositive : 0 < (padded 4 year.natAbs).length := by
    rw [hcons]
    exact Nat.succ_pos _
  have hread : readNumber 1 (padded 4 year.natAbs ++ '-' :: rest).length
      (padded 4 year.natAbs ++ '-' :: rest) = some (year.natAbs, '-' :: rest) := by
    rw [readNumber_append (fun _ => Decimal.isDigit_of_mem_padded) hpositive
      (by rw [List.length_append]; exact Nat.le_add_right _ _) (Or.inr ⟨'-', rest, rfl, rfl⟩),
      Decimal.ofDigits_padded]
  simp only [yearChars, readYear]
  rw [if_neg hyear]
  by_cases hminus : year < 0
  · have hskip : ∀ cs, skipBlanks ('-' :: cs) = '-' :: cs := fun _ => rfl
    rw [if_pos hminus, List.cons_append, hskip]
    simp only [hread, Option.map_some]
    rw [show -(year.natAbs : Int) = year by omega]
  · have hskip : ∀ cs, skipBlanks ('+' :: cs) = '+' :: cs := fun _ => rfl
    rw [if_neg hminus, List.cons_append, hskip]
    simp only [hread, Option.map_some]
    rw [show (year.natAbs : Int) = year by omega]

namespace Instant

/-- No stamp is read by a reader that expects a year of four digits, unless it has one. -/
theorem ofRfc3339?_stamp_of_signed {t : Instant} (hyear : ¬t.HasFourDigitYear) :
    ofRfc3339? t.stamp = none := by
  have hsign : (if t.date.year < 0 then '-' else '+').isDigit = false := by
    split <;> rfl
  have hnumber : readNumber 4 4 t.stamp.toList = none := by
    simp only [stamp, secondChars, Date.chars, yearChars]
    rw [if_neg (show ¬(0 ≤ t.date.year ∧ t.date.year ≤ 9999) from hyear), String.toList_ofList]
    simp only [readNumber, List.cons_append, List.take_succ_cons, List.takeWhile_cons, hsign]
    rfl
  simp only [ofRfc3339?]
  rw [hnumber]
  rfl

/-- The letter before the time of day is no blank. -/
theorem ofPattern?_stamp_of_signed {t : Instant} (hyear : ¬t.HasFourDigitYear) :
    ofPattern? (datePattern ++ [.blanks] ++ secondPattern) t.stamp = none := by
  obtain ⟨hmonthLow, hmonthHigh, hdayHigh⟩ := date_bounds t
  have hparts : readParts {} t.stamp.toList (datePattern ++ [.blanks] ++ secondPattern) = none := by
    simp only [stamp, secondChars, Date.chars]
    rw [String.toList_ofList]
    simp only [List.append_assoc, List.cons_append]
    have hread := readYear_signed (show ¬(0 ≤ t.date.year ∧ t.date.year ≤ 9999) from hyear)
    simp only [datePattern, secondPattern, minutePattern, List.cons_append, List.nil_append,
      readParts, Part.read, hread, Option.map_some, readChar, if_true,
      readPair_padded (show t.date.month < 10 ^ 2 by omega),
      readPair_padded (show t.date.day < 10 ^ 2 by omega)]
    rfl
  simp only [ofPattern?]
  rw [hparts]
  rfl

/-- Only the stamp of a year with four digits is read from the store. -/
theorem hasFourDigitYear_of_ofStored? {t u : Instant} (h : ofStored? t.stamp = some u) :
    t.HasFourDigitYear ∧ u = t.stamped := by
  by_cases hyear : t.HasFourDigitYear
  · refine ⟨hyear, ?_⟩
    simp only [ofStored?] at h
    rw [ofRfc3339?_stamp hyear] at h
    exact (Option.some.inj h).symm
  · simp only [ofStored?] at h
    rw [ofRfc3339?_stamp_of_signed hyear, ofPattern?_stamp_of_signed hyear] at h
    cases h

end Instant

/-! ## Texts of days -/

theorem padded_injective {width n m : Nat} (h : padded width n = padded width m) : n = m := by
  rw [← Decimal.ofDigits_padded width n, h, Decimal.ofDigits_padded]

/-- A year that has a sign is not written like one that has none. -/
theorem padded_ne_signed {width n : Nat} {c : Char} (hc : c.isDigit = false) (cs : List Char) :
    padded width n ≠ c :: cs := by
  intro h
  have hdigit : c.isDigit = true := Decimal.isDigit_of_mem_padded (h ▸ List.mem_cons_self)
  cases hc.symm.trans hdigit

theorem yearChars_injective {y z : Int} (h : yearChars y = yearChars z) : y = z := by
  have hsign : ∀ x : Int, (if x < 0 then '-' else '+').isDigit = false := fun x => by
    split <;> rfl
  simp only [yearChars] at h
  by_cases hy : 0 ≤ y ∧ y ≤ 9999
  · by_cases hz : 0 ≤ z ∧ z ≤ 9999
    · rw [if_pos hy, if_pos hz] at h
      have := padded_injective h
      omega
    · rw [if_pos hy, if_neg hz] at h
      exact absurd h (padded_ne_signed (hsign z) _)
  · by_cases hz : 0 ≤ z ∧ z ≤ 9999
    · rw [if_neg hy, if_pos hz] at h
      exact absurd h.symm (padded_ne_signed (hsign y) _)
    · rw [if_neg hy, if_neg hz] at h
      obtain ⟨hsame, hnumber⟩ := List.cons.inj h
      have := padded_injective hnumber
      by_cases hminus : y < 0
      · rw [if_pos hminus] at hsame
        split at hsame
        · omega
        · cases hsame
      · rw [if_neg hminus] at hsame
        split at hsame
        · cases hsame
        · omega

/-- Different days of the calendar have different texts. -/
theorem Date.render_injective {d e : Date} (hd : d.IsValid) (he : e.IsValid)
    (h : d.render = e.render) : d = e := by
  obtain ⟨-, hmonthD, hdayD⟩ := hd.bounds
  obtain ⟨-, hmonthE, hdayE⟩ := he.bounds
  have hlength : ∀ n, n < 10 ^ 2 → (padded 2 n).length = 2 := fun n hn =>
    Decimal.length_padded (by decide) hn
  simp only [Date.render, Date.chars] at h
  -- month and day have their widths, so the texts agree part by part
  obtain ⟨hyear, hrest⟩ := List.append_inj' (String.ofList_injective h) (by
    simp only [List.length_cons, List.length_append]
    rw [hlength _ (by omega), hlength _ (by omega), hlength _ (by omega), hlength _ (by omega)])
  obtain ⟨hmonth, hday⟩ := List.append_inj (List.cons.inj hrest).2 (by
    rw [hlength _ (by omega), hlength _ (by omega)])
  cases d
  cases e
  rw [Date.mk.injEq]
  exact ⟨yearChars_injective hyear, padded_injective hmonth,
    padded_injective (List.cons.inj hday).2⟩

end RobotMaze.Time
