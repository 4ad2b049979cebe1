import Mathlib.Data.List.Induction
import RobotMaze.Proofs.Time.Day

/-! # Bounds — what the texts of a filter name

    A bound is written as RFC 3339, as a local time or as a bare date.

    * `isRegular_of_ofBound?` — no text names a leap second within a minute, so what
      is read of the stamp of a bound is the bound, up to the millisecond;
    * `NamesDay` — a text is a bare date, in whatever spelling;
    * `NamesDay.ofBound?_eq` — no other reader takes it for a time, so it stands for
      the two ends of its day;
    * `le_endOfDay_iff` — between which are the milliseconds of the day, and none of
      another day. -/

namespace RobotMaze.Time

open Text (ofDigits)

/-! ## What is read of numbers -/

theorem ofDigits_lt {ds : List Char} (h : ∀ c ∈ ds, c.isDigit = true) :
    ofDigits ds < 10 ^ ds.length := by
  induction ds using List.reverseRecOn with
  | nil => decide
  | append_singleton ds c ih =>
      have hrest := ih fun d hd => h d (List.mem_append_left _ hd)
      have hdigit := h c (List.mem_append_right _ (List.mem_singleton_self c))
      simp only [Char.isDigit, Bool.and_eq_true, decide_eq_true_eq] at hdigit
      have hhigh : c.toNat ≤ 57 := hdigit.2
      have hlast : ofDigits (ds ++ [c]) = ofDigits ds * 10 + (c.toNat - 48) := by
        simp only [ofDigits, List.foldl_append]
        rfl
      rw [hlast, List.length_append, List.length_singleton, Nat.pow_succ]
      omega

/-- A number that is read is spelled by the digits in front of the rest. -/
theorem exists_of_readNumber {least most n : Nat} {cs rest : List Char}
    (h : readNumber least most cs = some (n, rest)) :
    ∃ ds, cs = ds ++ rest ∧ n = ofDigits ds ∧ (∀ c ∈ ds, c.isDigit = true) ∧ least ≤ ds.length
      ∧ ds.length ≤ most := by
  have hprefix : (cs.take most).takeWhile Char.isDigit <+: cs :=
    (List.takeWhile_prefix _).trans (List.take_prefix most cs)
  have hdigits : ∀ c ∈ (cs.take most).takeWhile Char.isDigit, c.isDigit = true := fun c hc =>
    List.all_eq_true.mp List.all_takeWhile c hc
  have hmost : ((cs.take most).takeWhile Char.isDigit).length ≤ most :=
    Nat.le_trans (List.takeWhile_prefix _).length_le (List.length_take_le _ _)
  simp only [readNumber] at h
  generalize (cs.take most).takeWhile Char.isDigit = ds at h hprefix hdigits hmost
  split at h
  · cases h
  · rename_i hleast
    obtain ⟨more, rfl⟩ := hprefix
    obtain ⟨rfl, rfl⟩ := Prod.mk.inj (Option.some.inj h)
    rw [List.drop_left]
    exact ⟨ds, rfl, rfl, hdigits, Nat.not_lt.mp hleast, hmost⟩

theorem nano_of_readFraction {n : Nat} {cs rest : List Char}
    (h : readFraction cs = some (n, rest)) : n < Instant.nanosPerSecond := by
  simp only [readFraction] at h
  split at h
  · obtain ⟨⟨digits, after⟩, hread, h⟩ := Option.bind_eq_some_iff.mp h
    obtain ⟨ds, rfl, rfl, hdigits, -, hmost⟩ := exists_of_readNumber hread
    obtain ⟨rfl, -⟩ := Prod.mk.inj (Option.some.inj h)
    rw [List.length_append, Nat.add_sub_cancel]
    calc ofDigits ds * 10 ^ (9 - ds.length)
        < 10 ^ ds.length * 10 ^ (9 - ds.length) :=
          Nat.mul_lt_mul_of_pos_right (ofDigits_lt hdigits) (Nat.pow_pos (by decide))
      _ = 10 ^ 9 := by rw [← Nat.pow_add, Nat.add_sub_cancel' hmost]
  · obtain ⟨rfl, -⟩ := Prod.mk.inj (Option.some.inj h)
    decide

/-- An offset has whole minutes. -/
theorem offset_of_readOffset {between : List Char → Option (List Char)} {offset : Int}
    {cs rest : List Char} (h : readOffset between cs = some (offset, rest)) : offset % 60 = 0 := by
  cases cs with
  | nil => cases h
  | cons c cs =>
      simp only [readOffset] at h
      split at h
      · obtain ⟨rfl, -⟩ := Prod.mk.inj (Option.some.inj h)
        rfl
      · obtain ⟨⟨sign, cs₁⟩, -, h⟩ := Option.bind_eq_some_iff.mp h
        obtain ⟨⟨hours, cs₂⟩, -, h⟩ := Option.bind_eq_some_iff.mp h
        obtain ⟨cs₃, -, h⟩ := Option.bind_eq_some_iff.mp h
        obtain ⟨⟨minutes, cs₄⟩, -, h⟩ := Option.bind_eq_some_iff.mp h
        simp only [] at h
        split at h
        · obtain ⟨rfl, -⟩ := Prod.mk.inj (Option.some.inj h)
          have hseconds : hours * 3600 + minutes * 60 = 60 * (hours * 60 + minutes) := by omega
          rw [hseconds, Int.natCast_mul, Int.mul_left_comm]
          exact Int.mul_emod_right _ _
        · cases h

/-! ## Leap seconds -/

/-- Fields with nanoseconds of a second, and an offset in whole minutes, name no leap second within a
    minute. -/
theorem Fields.isRegular {f : Fields} {t : Instant} (hnano : f.nano < Instant.nanosPerSecond)
    (hoffset : f.offset % 60 = 0) (h : f.instant? = some t) : t.IsRegular := by
  obtain ⟨date, -, h⟩ := Option.bind_eq_some_iff.mp h
  simp only [] at h
  split at h
  · obtain rfl := Instant.eq_of_checked? h
    -- the second 60 is the one before with more nanoseconds than a second has
    by_cases hleap : f.second = 60
    · refine Or.inr ⟨?_, ?_⟩
      · simp only [Instant.onDay, Instant.secondOfDay, Instant.secondsPerDay, if_pos hleap]
        omega
      · simp only [Instant.onDay, if_pos hleap]
        omega
    · refine Or.inl ?_
      simp only [Instant.onDay, if_neg hleap]
      exact hnano
  · cases h

/-! ## Patterns -/

/-- What every part of a pattern leaves as it is, the whole pattern does. -/
theorem readParts_induction {P : Fields → Prop} {parts : List Part}
    (hparts : ∀ part ∈ parts, ∀ f cs g rest, P f → part.read f cs = some (g, rest) → P g)
    {f g : Fields} {cs : List Char} (hf : P f) (h : readParts f cs parts = some g) : P g := by
  induction parts generalizing f cs with
  | nil =>
      simp only [readParts] at h
      split at h
      · exact Option.some.inj h ▸ hf
      · cases h
  | cons part parts ih =>
      simp only [readParts] at h
      split at h
      · rename_i f' rest hread
        exact ih (fun p hp => hparts p (List.mem_cons_of_mem _ hp))
          (hparts part List.mem_cons_self f cs f' rest hf hread) h
      · cases h

/-- A pattern does not go on where a text has ended. -/
theorem readParts_append_letter {parts more : List Part} {c : Char} {f g : Fields} {cs : List Char}
    (h : readParts f cs parts = some g) : readParts f cs (parts ++ .letter c :: more) = none := by
  induction parts generalizing f cs with
  | nil =>
      simp only [readParts] at h
      split at h
      · rename_i hempty
        rw [List.isEmpty_iff.mp hempty]
        rfl
      · cases h
  | cons part parts ih =>
      simp only [readParts] at h
      split at h
      · rename_i hread
        simp only [List.cons_append, readParts, hread]
        exact ih h
      · cases h

namespace Instant

theorem isRegular_of_ofRfc3339? {s : String} {t : Instant} (h : ofRfc3339? s = some t) :
    t.IsRegular := by
  -- of all that is read, only the fraction and the offset matter
  obtain ⟨⟨year, cs⟩, -, h⟩ := Option.bind_eq_some_iff.mp h
  obtain ⟨cs, -, h⟩ := Option.bind_eq_some_iff.mp h
  obtain ⟨⟨month, cs⟩, -, h⟩ := Option.bind_eq_some_iff.mp h
  obtain ⟨cs, -, h⟩ := Option.bind_eq_some_iff.mp h
  obtain ⟨⟨day, cs⟩, -, h⟩ := Option.bind_eq_some_iff.mp h
  obtain ⟨cs, -, h⟩ := Option.bind_eq_some_iff.mp h
  obtain ⟨⟨hour, cs⟩, -, h⟩ := Option.bind_eq_some_iff.mp h
  obtain ⟨cs, -, h⟩ := Option.bind_eq_some_iff.mp h
  obtain ⟨⟨minute, cs⟩, -, h⟩ := Option.bind_eq_some_iff.mp h
  obtain ⟨cs, -, h⟩ := Option.bind_eq_some_iff.mp h
  obtain ⟨⟨second, cs⟩, -, h⟩ := Option.bind_eq_some_iff.mp h
  obtain ⟨⟨nano, cs⟩, hnano, h⟩ := Option.bind_eq_some_iff.mp h
  obtain ⟨⟨offset, cs⟩, hoffset, h⟩ := Option.bind_eq_some_iff.mp h
  simp only [] at h
  split at h
  · exact Fields.isRegular (nano_of_readFraction hnano) (offset_of_readOffset hoffset) h
  · cases h

/-- A pattern without places of the second leaves them, and the offset, at zero. -/
theorem isRegular_of_ofPattern? {pattern : List Part} (hpattern : .fraction ∉ pattern) {s : String}
    {t : Instant} (h : ofPattern? pattern s = some t) : t.IsRegular := by
  obtain ⟨f, hread, h⟩ := Option.bind_eq_some_iff.mp h
  have hzero : f.nano = 0 ∧ f.offset = 0 := by
    refine readParts_induction (P := fun f => f.nano = 0 ∧ f.offset = 0) ?_ ⟨rfl, rfl⟩ hread
    intro part hpart f cs g rest hf hpart'
    cases part with
    | fraction => exact absurd hpart hpattern
    | blanks =>
        obtain ⟨rfl, -⟩ := Prod.mk.inj (Option.some.inj hpart')
        exact hf
    | _ =>
        obtain ⟨_, -, hg⟩ := Option.map_eq_some_iff.mp hpart'
        obtain ⟨rfl, -⟩ := Prod.mk.inj hg
        exact hf
  refine Fields.isRegular ?_ ?_ h
  · rw [hzero.1]
    decide
  · rw [hzero.2]
    rfl

/-- No bound is a leap second within a minute. -/
theorem isRegular_of_ofBound? {side : BoundSide} {s : String} {t : Instant}
    (h : ofBound? side s = some t) : t.IsRegular := by
  simp only [ofBound?, Option.orElse_eq_orElse, Option.orElse_eq_or, Option.or_eq_some_iff] at h
  rcases h with h | ⟨-, h | ⟨-, h | ⟨-, h⟩⟩⟩
  · exact isRegular_of_ofRfc3339? h
  · exact isRegular_of_ofPattern? (by decide) h
  · exact isRegular_of_ofPattern? (by decide) h
  · obtain ⟨midnight, hdate, rfl⟩ := Option.map_eq_some_iff.mp h
    cases side with
    | lower => exact isRegular_of_ofPattern? (by decide) hdate
    | upper => exact Or.inl (by decide : 999000000 < nanosPerSecond)

end Instant

/-! ## Bare dates -/

/-- A text is the bare date of a day. -/
def NamesDay (text : String) (n : Int) : Prop :=
  Instant.ofPattern? datePattern text = some (.ofDayNumber n)

instance (text : String) (n : Int) : Decidable (NamesDay text n) :=
  inferInstanceAs (Decidable (_ = _))

/-- What is read as a date alone is a day. -/
theorem exists_namesDay {text : String} {t : Instant}
    (h : Instant.ofPattern? datePattern text = some t) : ∃ n, NamesDay text n := by
  obtain ⟨f, hread, hinstant⟩ := Option.bind_eq_some_iff.mp h
  -- only the fields of the date are read
  have hzero : f.hour = 0 ∧ f.minute = 0 ∧ f.second = 0 ∧ f.nano = 0 ∧ f.offset = 0 := by
    refine readParts_induction
      (P := fun f => f.hour = 0 ∧ f.minute = 0 ∧ f.second = 0 ∧ f.nano = 0 ∧ f.offset = 0)
      ?_ ⟨rfl, rfl, rfl, rfl, rfl⟩ hread
    intro part hpart f cs g rest hf hpart'
    simp only [datePattern, List.mem_cons, List.not_mem_nil, or_false] at hpart
    rcases hpart with rfl | rfl | rfl | rfl | rfl <;>
    · obtain ⟨_, -, hg⟩ := Option.map_eq_some_iff.mp hpart'
      obtain ⟨rfl, -⟩ := Prod.mk.inj hg
      exact hf
  obtain ⟨hhour, hminute, hsecond, hnano, hoffset⟩ := hzero
  obtain ⟨date, -, hchecked⟩ := Option.bind_eq_some_iff.mp hinstant
  simp only [hhour, hminute, hsecond, hnano, hoffset] at hchecked
  split at hchecked
  · refine ⟨date.dayNumber, ?_⟩
    rw [NamesDay, h, Instant.eq_of_checked? hchecked]
    simp [Instant.onDay, Instant.ofDayNumber]
  · cases hchecked

/-- No bare date is an RFC 3339 text, in which a letter follows the day. -/
theorem NamesDay.ofRfc3339?_eq {text : String} {n : Int} (h : NamesDay text n) :
    Instant.ofRfc3339? text = none := by
  rw [Option.eq_none_iff_forall_ne_some]
  intro t hread
  obtain ⟨⟨year, cs₁⟩, hyear, hread⟩ := Option.bind_eq_some_iff.mp hread
  obtain ⟨cs₂, hdash, hread⟩ := Option.bind_eq_some_iff.mp hread
  obtain ⟨⟨month, cs₃⟩, hmonth, hread⟩ := Option.bind_eq_some_iff.mp hread
  obtain ⟨cs₄, hdash', hread⟩ := Option.bind_eq_some_iff.mp hread
  obtain ⟨⟨day, cs₅⟩, hday, hread⟩ := Option.bind_eq_some_iff.mp hread
  obtain ⟨cs₆, hseparator, -⟩ := Option.bind_eq_some_iff.mp hread
  have hmore : cs₅.isEmpty = false := by
    cases cs₅ with
    | nil => cases hseparator
    | cons c cs => rfl
  obtain ⟨ds, hcs, -, hdigits, hleast, hmost⟩ := exists_of_readNumber hyear
  obtain ⟨ds', rfl, -, hdigits', hleast', hmost'⟩ := exists_of_readNumber hmonth
  obtain ⟨ds'', rfl, -, hdigits'', hleast'', hmost''⟩ := exists_of_readNumber hday
  have hparts : readParts {} text.toList datePattern = none := by
    simp only [datePattern, readParts, Part.read, hcs,
      readYear_digits hdigits (Nat.le_antisymm hmost hleast), hdash,
      readPair_digits hdigits' (Nat.le_antisymm hmost' hleast'), hdash',
      readPair_digits hdigits'' (Nat.le_antisymm hmost'' hleast''), Option.map_some, hmore]
    rfl
  rw [NamesDay, Instant.ofPattern?, hparts] at h
  cases h

/-- No bare date is a local time, which goes on after it. -/
theorem NamesDay.ofPattern?_eq {text : String} {n : Int} (h : NamesDay text n)
    (more : List Part) :
    Instant.ofPattern? (datePattern ++ .letter 'T' :: more) text = none := by
  obtain ⟨f, hread, -⟩ := Option.bind_eq_some_iff.mp h
  rw [Instant.ofPattern?, readParts_append_letter hread]
  rfl

/-- A bare date stands for an end of its day. -/
theorem NamesDay.ofBound?_eq {text : String} {n : Int} (h : NamesDay text n)
    (side : Instant.BoundSide) :
    Instant.ofBound? side text = some (side.ofDate (.ofDayNumber n)) := by
  simp only [Instant.ofBound?, List.append_assoc, List.singleton_append]
  rw [h.ofRfc3339?_eq, h.ofPattern?_eq, h.ofPattern?_eq, h]
  rfl

/-! ## The ends of a day -/

namespace Instant

/-- The last millisecond of a day. -/
def endOfDay (n : Int) : Instant := BoundSide.upper.ofDate (ofDayNumber n)

theorem dayNumber_endOfDay (n : Int) : (endOfDay n).dayNumber = n := by
  show (n * 86400 + 86399) / 86400 = n
  omega

theorem stamped_ofDayNumber (n : Int) : (ofDayNumber n).stamped = ofDayNumber n := by
  rw [stamped_eq_truncate (by decide : 0 < nanosPerSecond), truncate_ofDayNumber]

theorem stamped_endOfDay (n : Int) : (endOfDay n).stamped = endOfDay n := by
  rw [stamped_eq_truncate (by decide : 999000000 < nanosPerSecond)]
  exact congrArg (mk _) (by decide : 999000000 / 1000000 * 1000000 = 999000000)

/-- Whole milliseconds up to the last one of a day are those of the day and of the days before. -/
theorem le_endOfDay_iff {n : Int} {t : Instant} (hwhole : t.truncate = t)
    (hnano : t.nano < nanosPerSecond) : t ≤ endOfDay n ↔ t.dayNumber ≤ n := by
  have hmilli : t.nano / 1000000 * 1000000 = t.nano := congrArg nano hwhole
  have hsecond := second_eq t
  have hlt := secondOfDay_lt t
  simp only [nanosPerSecond] at hnano
  show t.second < n * 86400 + 86399 ∨ (t.second = n * 86400 + 86399 ∧ t.nano ≤ 999000000)
    ↔ t.dayNumber ≤ n
  omega

/-- A bound that is no later than a midnight is not stored as a later one. -/
theorem stamped_le_midnight {n : Int} {t : Instant} (h : t ≤ ofDayNumber n) :
    t.stamped ≤ ofDayNumber n := by
  have hsecond := second_eq t
  have hlt := secondOfDay_lt t
  have hle : t.second < n * 86400 ∨ (t.second = n * 86400 ∧ t.nano ≤ 0) := h
  show t.stamped.second < n * 86400 ∨ (t.stamped.second = n * 86400 ∧ t.stamped.nano ≤ 0)
  rw [stamped_eq_shown]
  rcases shown_cases t t.milliNanos with ⟨-, heq⟩ | ⟨hleap, -, heq⟩ | ⟨hleap, hlast, heq⟩
  · rw [heq]
    simp only [onDay, secondsPerDay, milliNanos, nanosPerSecond]
    omega
  · simp only [nanosPerSecond] at hleap
    rw [heq]
    simp only [onDay, secondsPerDay]
    omega
  · simp only [nanosPerSecond] at hleap
    rw [heq]
    simp only [onDay, secondsPerDay]
    omega

/-- A bound that is no earlier than the end of a day is not stored as an earlier one. -/
theorem endOfDay_le_stamped {n : Int} {t : Instant} (h : endOfDay n ≤ t) :
    endOfDay n ≤ t.stamped := by
  have hsecond := second_eq t
  have hlt := secondOfDay_lt t
  have hle : n * 86400 + 86399 < t.second
    ∨ (n * 86400 + 86399 = t.second ∧ 999000000 ≤ t.nano) := h
  show n * 86400 + 86399 < t.stamped.second
    ∨ (n * 86400 + 86399 = t.stamped.second ∧ 999000000 ≤ t.stamped.nano)
  rw [stamped_eq_shown]
  rcases shown_cases t t.milliNanos with ⟨hplain, heq⟩ | ⟨-, -, heq⟩ | ⟨-, -, heq⟩
  · simp only [nanosPerSecond] at hplain
    rw [heq]
    simp only [onDay, secondsPerDay, milliNanos, nanosPerSecond]
    omega
  · rw [heq]
    simp only [onDay, secondsPerDay, nanosPerSecond]
    omega
  · rw [heq]
    simp only [onDay, secondsPerDay]
    omega

end Instant

end RobotMaze.Time
