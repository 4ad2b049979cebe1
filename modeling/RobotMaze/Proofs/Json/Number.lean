import RobotMaze.Proofs.Decimal
import RobotMaze.Proofs.Json.Text

/-! # Numbers — written and read back

    A literal has digits, and it may have places after a point and an exponent.

    * `Literal.IsWellFormed` — the rules for its parts, `Literal.text` the literal as
      written;
    * `literal?_chars` — by these rules it is read back, in front of what cannot go on
      with it (`EndsValue`);
    * `exists_literal` — every number is written as such a literal or as `null`, also the
      shortest form of a floating-point number (`exists_layout`);
    * `valueAt_numberChars` — so the text of a number is read to its end, as
      `readNumber` says, which for whole numbers of 64 bits is the number itself
      (`readNumber_whole`). -/

namespace RobotMaze.Json.Reading

/-! ## Digits -/

/-- One digit or more. -/
structure IsDigits (ds : List Char) : Prop where
  ne_nil : ds ≠ []
  isDigit : ∀ c ∈ ds, c.isDigit = true

/-- The digits of a number are digits. -/
theorem isDigits_toDigits (n : Nat) : IsDigits (Nat.toDigits 10 n) where
  ne_nil := List.ne_nil_of_length_pos Nat.length_toDigits_pos
  isDigit _ hc := Nat.isDigit_of_mem_toDigits (by decide) (by decide) hc

theorem isDigits_zero : IsDigits ['0'] where
  ne_nil := List.cons_ne_nil _ _
  isDigit _ hc := List.mem_singleton.mp hc ▸ rfl

namespace IsDigits

variable {ds : List Char} (h : IsDigits ds)

include h

/-- Digits stay digits behind zeros. -/
theorem zeros_append (n : Nat) : IsDigits (List.replicate n '0' ++ ds) where
  ne_nil := List.append_ne_nil_of_right_ne_nil _ h.ne_nil
  isDigit c hc := by
    rcases List.mem_append.mp hc with hc | hc
    · rw [List.eq_of_mem_replicate hc]
      rfl
    · exact h.isDigit c hc

/-- Digits stay digits before zeros. -/
theorem append_zeros (n : Nat) : IsDigits (ds ++ List.replicate n '0') where
  ne_nil := List.append_ne_nil_of_left_ne_nil h.ne_nil _
  isDigit c hc := by
    rcases List.mem_append.mp hc with hc | hc
    · exact h.isDigit c hc
    · rw [List.eq_of_mem_replicate hc]
      rfl

/-- The first digits are digits. -/
theorem take {n : Nat} (hn : 0 < n) : IsDigits (ds.take n) where
  ne_nil heq := (List.take_eq_nil_iff.mp heq).elim (Nat.ne_of_gt hn) h.ne_nil
  isDigit c hc := h.isDigit c (List.mem_of_mem_take hc)

/-- What is left of digits is digits, if anything is. -/
theorem drop {n : Nat} (hn : n < ds.length) : IsDigits (ds.drop n) where
  ne_nil heq := Nat.not_le_of_lt hn (List.drop_eq_nil_iff.mp heq)
  isDigit c hc := h.isDigit c (List.mem_of_mem_drop hc)

/-- All digits are taken, and what follows them is left. -/
theorem splitDigits_append {rest : List Char} (hrest : ∀ c ∈ rest.head?, c.isDigit = false) :
    splitDigits (ds ++ rest) = (ds, rest) := by
  simp only [splitDigits]
  rw [List.takeWhile_append_of_pos h.isDigit, List.dropWhile_append_of_pos h.isDigit]
  cases rest with
  | nil => simp
  | cons c rest => simp [hrest c rfl]

theorem isEmpty : ds.isEmpty = false := List.isEmpty_eq_false_iff.mpr h.ne_nil

end IsDigits

/-! ## Literals -/

/-- A number that ends here is not continued by what follows. -/
def EndsValue (rest : List Char) : Prop :=
  ∀ c ∈ rest.head?, c.isDigit = false ∧ c ≠ '.' ∧ c ≠ 'e' ∧ c ≠ 'E'

/-- The end of a text ends a number. -/
theorem endsValue_nil : EndsValue [] := fun _ h => nomatch h

/-- A character that no number goes on with ends it. -/
theorem endsValue_cons {c : Char} (hdigit : c.isDigit = false) (hpoint : c ≠ '.') (hlower : c ≠ 'e')
    (hupper : c ≠ 'E') (rest : List Char) : EndsValue (c :: rest) := by
  intro d hd
  obtain rfl : c = d := Option.some.inj hd
  exact ⟨hdigit, hpoint, hlower, hupper⟩

/-- The places after a point as written. -/
def fractionChars : Option (List Char) → List Char
  | none => []
  | some ds => '.' :: ds

/-- An exponent as written, with its sign. -/
def exponentChars : Option (Bool × List Char) → List Char
  | none => []
  | some (negative, ds) => 'e' :: (if negative then '-' else '+') :: ds

/-- A literal as written after its sign. -/
def Literal.chars (l : Literal) : List Char :=
  l.digits ++ (fractionChars l.fraction ++ exponentChars l.exponent)

/-- A literal as written. -/
def Literal.text (l : Literal) : List Char := if l.negative then '-' :: l.chars else l.chars

/-- A digit or one of the four signs of a literal. -/
def IsLiteralChar (c : Char) : Prop := c.isDigit = true ∨ c ∈ ['.', 'e', '+', '-']

/-- The rules for literals. -/
structure Literal.IsWellFormed (l : Literal) : Prop where
  digits : IsDigits l.digits
  /-- Only zero begins with a zero. -/
  leading : l.digits.head? = some '0' → l.digits.length ≤ 1
  fraction : ∀ ds ∈ l.fraction, IsDigits ds
  exponent : ∀ e ∈ l.exponent, IsDigits e.2

/-- A fraction is read off as far as it goes, or there is none. -/
theorem fractionPart_append {f : Option (List Char)} (hf : ∀ ds ∈ f, IsDigits ds)
    {rest : List Char} (hrest : ∀ c ∈ rest.head?, c.isDigit = false ∧ c ≠ '.') :
    fractionPart (fractionChars f ++ rest) = some (f, rest) := by
  cases f with
  | none =>
      rw [fractionChars, List.nil_append, fractionPart]
      rintro more rfl
      exact (hrest '.' rfl).2 rfl
  | some ds =>
      have hds : IsDigits ds := hf ds rfl
      simp only [fractionChars, List.cons_append, fractionPart]
      rw [hds.splitDigits_append fun c hc => (hrest c hc).1]
      simp only [hds.isEmpty, Bool.false_eq_true, if_false]

/-- An exponent is read off as far as it goes, or there is none. -/
theorem exponentPart_append {e : Option (Bool × List Char)} (he : ∀ p ∈ e, IsDigits p.2)
    {rest : List Char} (hrest : EndsValue rest) :
    exponentPart (exponentChars e ++ rest) = some (e, rest) := by
  cases e with
  | none =>
      rw [exponentChars, List.nil_append]
      cases rest with
      | nil => rfl
      | cons c rest =>
          obtain ⟨-, -, hlower, hupper⟩ := hrest c rfl
          show (if c = 'e' ∨ c = 'E' then _ else _) = _
          rw [if_neg (not_or.mpr ⟨hlower, hupper⟩)]
  | some p =>
      obtain ⟨negative, ds⟩ := p
      have hds : IsDigits ds := he (negative, ds) rfl
      have hsplit := hds.splitDigits_append fun c hc => (hrest c hc).1
      cases negative with
      | true =>
          show (if (splitDigits (ds ++ rest)).1.isEmpty then none
            else some (some (true, (splitDigits (ds ++ rest)).1), (splitDigits (ds ++ rest)).2)) = _
          rw [hsplit, hds.isEmpty]
          rfl
      | false =>
          show (if (splitDigits (ds ++ rest)).1.isEmpty then none
            else some (some (false, (splitDigits (ds ++ rest)).1), (splitDigits (ds ++ rest)).2)) = _
          rw [hsplit, hds.isEmpty]
          rfl

/-- Neither a digit nor a point follows the places of a literal. -/
theorem head?_exponentChars {e : Option (Bool × List Char)} {rest : List Char}
    (hrest : EndsValue rest) :
    ∀ c ∈ (exponentChars e ++ rest).head?, c.isDigit = false ∧ c ≠ '.' := by
  intro c hc
  cases e with
  | none => exact ⟨(hrest c hc).1, (hrest c hc).2.1⟩
  | some p =>
      obtain rfl : 'e' = c := Option.some.inj hc
      exact ⟨rfl, by decide⟩

/-- No digit follows the digits of a literal. -/
theorem head?_fractionChars {f : Option (List Char)} {rest : List Char}
    (hrest : ∀ c ∈ rest.head?, c.isDigit = false ∧ c ≠ '.') :
    ∀ c ∈ (fractionChars f ++ rest).head?, c.isDigit = false := by
  intro c hc
  cases f with
  | none => exact (hrest c hc).1
  | some ds =>
      obtain rfl : '.' = c := Option.some.inj hc
      rfl

/-- A value that begins with a digit is a number. -/
theorem valueAt_digit {c : Char} (hc : c.isDigit = true) (fuel : Nat) (rest : List Char) :
    valueAt (fuel + 1) (c :: rest) = numberAt false (c :: rest) := by
  rw [valueAt, skipSpace_cons (isSpace_of_isDigit hc)]
  simp only [if_neg (ne_of_isDigit hc (rfl : 'n'.isDigit = false)),
    if_neg (ne_of_isDigit hc (rfl : 't'.isDigit = false)),
    if_neg (ne_of_isDigit hc (rfl : 'f'.isDigit = false)),
    if_neg (ne_of_isDigit hc (rfl : '-'.isDigit = false)), if_pos hc]

section Literals

variable {l : Literal} (hl : l.IsWellFormed) {rest : List Char}

include hl

/-- A literal is read off its characters, whatever ends it. -/
theorem literal?_chars (hrest : EndsValue rest) :
    literal? l.negative (l.chars ++ rest) = some (l, rest) := by
  have hexponent := head?_exponentChars (e := l.exponent) hrest
  have hleading : ¬ (l.digits.head? = some '0' ∧ 1 < l.digits.length) :=
    fun ⟨hzero, hlong⟩ => Nat.not_lt_of_le (hl.leading hzero) hlong
  simp only [literal?, Literal.chars, List.append_assoc]
  rw [hl.digits.splitDigits_append (head?_fractionChars hexponent)]
  simp only [hl.digits.isEmpty, Bool.false_eq_true, false_or, if_neg hleading]
  rw [fractionPart_append hl.fraction hexponent]
  simp only []
  rw [exponentPart_append hl.exponent hrest]

/-- The value of a literal is read off its characters. -/
theorem numberAt_chars (hrest : EndsValue rest) :
    numberAt l.negative (l.chars ++ rest) = (l.value, rest) := by
  simp only [numberAt]
  rw [literal?_chars hl hrest]

/-- A literal begins with a digit, after its sign. -/
theorem chars_begins : ∃ c more, l.chars = c :: more ∧ c.isDigit = true := by
  obtain ⟨c, more, hcons⟩ := List.exists_cons_of_ne_nil hl.digits.ne_nil
  refine ⟨c, more ++ (fractionChars l.fraction ++ exponentChars l.exponent), ?_,
    hl.digits.isDigit c (hcons ▸ List.mem_cons_self)⟩
  rw [Literal.chars, hcons, List.cons_append]

/-- A literal begins with its sign or with a digit. -/
theorem text_begins : ∃ c more, l.text = c :: more ∧ (c = '-' ∨ c.isDigit = true) := by
  rw [Literal.text]
  cases l.negative with
  | true => exact ⟨'-', l.chars, rfl, .inl rfl⟩
  | false =>
      obtain ⟨c, more, hchars, hc⟩ := chars_begins hl
      exact ⟨c, more, hchars, .inr hc⟩

/-- A literal is read as its value. -/
theorem valueAt_text (hrest : EndsValue rest) (fuel : Nat) :
    valueAt (fuel + 1) (l.text ++ rest) = (l.value, rest) := by
  have hread := numberAt_chars hl hrest
  rw [Literal.text]
  cases hnegative : l.negative with
  | true =>
      rw [hnegative] at hread
      exact hread
  | false =>
      obtain ⟨c, more, hchars, hc⟩ := chars_begins hl
      rw [hnegative, hchars, List.cons_append] at hread
      rw [if_neg Bool.false_ne_true, hchars, List.cons_append, valueAt_digit hc, hread]

/-- A literal has digits, signs, points and the letter of an exponent only. -/
theorem isLiteralChar_of_mem_text {c : Char} (hc : c ∈ l.text) : IsLiteralChar c := by
  have hfraction : c ∈ fractionChars l.fraction → IsLiteralChar c := by
    cases hf : l.fraction with
    | none => exact fun h => nomatch h
    | some ds =>
        intro h
        rcases List.mem_cons.mp h with rfl | h
        · exact .inr (by decide)
        · exact .inl ((hl.fraction ds hf).isDigit c h)
  have hexponent : c ∈ exponentChars l.exponent → IsLiteralChar c := by
    cases he : l.exponent with
    | none => exact fun h => nomatch h
    | some e =>
        intro h
        rcases List.mem_cons.mp h with rfl | h
        · exact .inr (by decide)
        rcases List.mem_cons.mp h with rfl | h
        · cases e.1 <;> exact .inr (by decide)
        · exact .inl ((hl.exponent e he).isDigit c h)
  have hchars : c ∈ l.chars → IsLiteralChar c := by
    intro h
    rcases List.mem_append.mp h with h | h
    · exact .inl (hl.digits.isDigit c h)
    · exact (List.mem_append.mp h).elim hfraction hexponent
  rw [Literal.text] at hc
  split at hc
  · rcases List.mem_cons.mp hc with rfl | hc
    · exact .inr (by decide)
    · exact hchars hc
  · exact hchars hc

end Literals

/-- A literal is a number, or a number that is too large. -/
theorem Literal.isWhole_value (l : Literal) : l.value.isWhole = true := by
  simp only [Literal.value]
  repeat' split
  all_goals rfl

/-! ## Shortest decimals -/

/-- The shortest form of a number is a literal, whichever of its layouts is taken. -/
theorem exists_layout {d : Decimal.Digits} (hd : d.IsFull) (negative : Bool) :
    ∃ l : Literal, l.IsWellFormed ∧ l.negative = negative ∧ d.layout = l.chars := by
  obtain ⟨hcount, hzero⟩ := hd.toDigits
  have hpos := hd.count_pos
  have hds : IsDigits (Nat.toDigits 10 d.digits) := isDigits_toDigits d.digits
  have hexponent : IsDigits (Nat.toDigits 10 d.exponent.natAbs) := isDigits_toDigits _
  have hmark : ∀ ds, (if d.exponent < 0 then ['e', '-'] else ['e', '+']) ++ ds
      = exponentChars (some (decide (d.exponent < 0), ds)) := by
    intro ds
    by_cases h : d.exponent < 0 <;> simp [h, exponentChars]
  simp only [Decimal.Digits.layout]
  rw [Decimal.toList_toString, Decimal.toList_toString, hmark]
  generalize Nat.toDigits 10 d.digits = ds at hcount hzero hds ⊢
  generalize Nat.toDigits 10 d.exponent.natAbs = es at hexponent ⊢
  -- the digits before the point begin as all the digits do
  have htake : ∀ n, 0 < n → (ds.take n).head? ≠ some '0' := by
    intro n hn
    rwa [List.head?_take, if_neg (Nat.ne_of_gt hn)]
  -- below one, a whole number, a number with places, and with an exponent one digit or more
  split
  · split
    · refine ⟨⟨negative, ['0'], some (List.replicate ((-d.exponent).toNat - 1) '0' ++ ds), none⟩,
        ⟨isDigits_zero, fun _ => Nat.le_refl 1, ?_, fun _ h => nomatch h⟩, rfl, ?_⟩
      · exact fun _ h => Option.some.inj h ▸ hds.zeros_append _
      · simp [Literal.chars, fractionChars, exponentChars]
    split
    · refine ⟨⟨negative, ds ++ List.replicate (d.exponent.toNat + 1 - d.count) '0', some ['0'],
        none⟩, ⟨hds.append_zeros _, fun h => absurd h ?_, ?_, fun _ h => nomatch h⟩, rfl, ?_⟩
      · obtain ⟨c, more, rfl⟩ := List.exists_cons_of_ne_nil hds.ne_nil
        exact hzero
      · exact fun _ h => Option.some.inj h ▸ isDigits_zero
      · simp [Literal.chars, fractionChars, exponentChars]
    · refine ⟨⟨negative, ds.take (d.exponent.toNat + 1), some (ds.drop (d.exponent.toNat + 1)),
        none⟩, ⟨hds.take (Nat.succ_pos _), fun h => absurd h (htake _ (Nat.succ_pos _)), ?_,
        fun _ h => nomatch h⟩, rfl, ?_⟩
      · exact fun _ h => Option.some.inj h ▸ hds.drop (by omega)
      · simp [Literal.chars, fractionChars, exponentChars]
  · split
    · refine ⟨⟨negative, ds, none, some (decide (d.exponent < 0), es)⟩,
        ⟨hds, fun h => absurd h hzero, (fun _ h => nomatch h), ?_⟩, rfl, rfl⟩
      exact fun _ h => Option.some.inj h ▸ hexponent
    · refine ⟨⟨negative, ds.take 1, some (ds.drop 1), some (decide (d.exponent < 0), es)⟩,
        ⟨hds.take Nat.one_pos, fun h => absurd h (htake 1 Nat.one_pos), ?_, ?_⟩, rfl, ?_⟩
      · exact fun _ h => Option.some.inj h ▸ hds.drop (by omega)
      · exact fun _ h => Option.some.inj h ▸ hexponent
      · simp only [Literal.chars, fractionChars, List.append_assoc, List.cons_append,
          List.nil_append]

/-! ## Whole numbers -/

/-- The literal of a whole number. -/
def wholeLiteral (negative : Bool) (n : Nat) : Literal := ⟨negative, Nat.toDigits 10 n, none, none⟩

/-- A whole number is a literal without fraction and exponent. -/
theorem wholeLiteral_isWellFormed (negative : Bool) (n : Nat) :
    (wholeLiteral negative n).IsWellFormed where
  digits := isDigits_toDigits n
  leading hzero := by
    show (Nat.toDigits 10 n).length ≤ 1
    rw [Decimal.head?_toDigits hzero]
    decide
  fraction _ h := nomatch h
  exponent _ h := nomatch h

/-- The characters of a whole number are its digits. -/
theorem chars_wholeLiteral (negative : Bool) (n : Nat) :
    (wholeLiteral negative n).chars = Nat.toDigits 10 n := by
  simp [wholeLiteral, Literal.chars, fractionChars, exponentChars]

/-- The number that digits go on to spell. -/
def spelled (n : Nat) (ds : List Char) : Nat := ds.foldl (fun n c => n * 10 + digitValue c) n

theorem le_spelled (n : Nat) (ds : List Char) : n ≤ spelled n ds := by
  induction ds generalizing n with
  | nil => exact Nat.le_refl n
  | cons c ds ih => exact Nat.le_trans (by omega) (ih (n * 10 + digitValue c))

/-- Digits that fit are all collected. -/
theorem collect_eq {n : Nat} {ds : List Char} (h : spelled n ds ≤ Decimal.maxSignificand) :
    collect n ds = (spelled n ds, 0) := by
  induction ds generalizing n with
  | nil => rfl
  | cons c ds ih =>
      have hnext : spelled (n * 10 + digitValue c) ds ≤ Decimal.maxSignificand := h
      simp only [collect]
      rw [if_pos (Nat.le_trans (le_spelled _ ds) hnext), ih hnext]
      rfl

/-- The digits of a number spell it. -/
theorem spelled_toDigits (n : Nat) : spelled 0 (Nat.toDigits 10 n) = n := by
  show Text.ofDigits (Nat.toDigits 10 n) = n
  rw [Text.ofDigits_eq, Nat.ofDigitChars_toDigits (by decide) (by decide)]

/-- A whole number that fits is collected. -/
theorem collect_toDigits {n : Nat} (hn : n ≤ Decimal.maxSignificand) :
    collect 0 (Nat.toDigits 10 n) = (n, 0) := by
  rw [collect_eq (by rw [spelled_toDigits]; exact hn), spelled_toDigits]

/-- A natural number is exact as far as the significand goes. -/
theorem value_wholeLiteral {n : Nat} (hn : n ≤ Decimal.maxSignificand) :
    (wholeLiteral false n).value = .number (.whole n) := by
  show Literal.value ⟨false, Nat.toDigits 10 n, none, none⟩ = _
  simp only [Literal.value]
  rw [collect_toDigits hn]
  rfl

/-- A negative number is exact as far as 64 bits with a sign go. -/
theorem value_wholeLiteral_neg {n : Nat} (hpos : 0 < n) (hn : n ≤ 0x8000000000000000) :
    (wholeLiteral true n).value = .number (.whole (-n)) := by
  show Literal.value ⟨true, Nat.toDigits 10 n, none, none⟩ = _
  simp only [Literal.value]
  rw [collect_toDigits (Nat.le_trans hn (by decide))]
  simp only [not_true_eq_false, and_false, if_false, hpos, hn, true_and, if_true]

/-- The whole numbers that are read back as what they are. -/
def IsExact (n : Int) : Prop := -0x8000000000000000 ≤ n ∧ n ≤ 0xFFFFFFFFFFFFFFFF

/-- A natural number is read back from its digits. -/
theorem numberAt_toDigits {n : Nat} (hn : n ≤ Decimal.maxSignificand) {rest : List Char}
    (hrest : EndsValue rest) :
    numberAt false (Nat.toDigits 10 n ++ rest) = (.number (.whole n), rest) := by
  have hread := numberAt_chars (wholeLiteral_isWellFormed false n) hrest
  rwa [chars_wholeLiteral, value_wholeLiteral hn] at hread

/-- A negative number is read back from the digits behind its sign. -/
theorem numberAt_minus {n : Nat} (hpos : 0 < n) (hn : n ≤ 0x8000000000000000) {rest : List Char}
    (hrest : EndsValue rest) :
    numberAt true (Nat.toDigits 10 n ++ rest) = (.number (.whole (-n)), rest) := by
  have hread := numberAt_chars (wholeLiteral_isWellFormed true n) hrest
  rwa [chars_wholeLiteral, value_wholeLiteral_neg hpos hn] at hread

end RobotMaze.Json.Reading

namespace RobotMaze.Json

open Reading

theorem numberChars_ofNat (n : Nat) : numberChars (.whole (Int.ofNat n)) = Nat.toDigits 10 n :=
  Decimal.toList_toString n

theorem numberChars_negSucc (n : Nat) :
    numberChars (.whole (Int.negSucc n)) = '-' :: Nat.toDigits 10 (n + 1) := by
  show ("-" ++ toString (n + 1)).toList = _
  rw [String.toList_append, Decimal.toList_toString]
  rfl

/-! ## All numbers -/

/-- A whole number is written as its literal. -/
theorem numberChars_whole (n : Int) :
    numberChars (.whole n) = (wholeLiteral (decide (n < 0)) n.natAbs).text := by
  cases n with
  | ofNat n =>
      rw [numberChars_ofNat, Literal.text, chars_wholeLiteral]
      exact (if_neg (by simp [wholeLiteral])).symm
  | negSucc n =>
      rw [numberChars_negSucc, Literal.text, chars_wholeLiteral]
      exact (if_pos (by simp [wholeLiteral])).symm

/-- A number is written as a literal or, if it is not finite, as `null`. -/
theorem exists_literal (n : Number) :
    (∃ l : Literal, l.IsWellFormed ∧ numberChars n = l.text)
      ∨ numberChars n = ['n', 'u', 'l', 'l'] := by
  cases n with
  | whole n => exact .inl ⟨_, wholeLiteral_isWellFormed _ _, numberChars_whole n⟩
  | float x =>
      simp only [numberChars, Decimal.render?]
      split
      · rename_i cs hcs
        split at hcs
        · refine .inl ?_
          obtain ⟨l, hl, hnegative, hbody⟩ : ∃ l : Literal, l.IsWellFormed
              ∧ l.negative = Decimal.signBit x
              ∧ (if (Decimal.Binary.ofFloat x).mantissa = 0 then ['0', '.', '0']
                else (Decimal.Binary.ofFloat x).shortest.layout) = l.chars := by
            split
            · exact ⟨⟨Decimal.signBit x, ['0'], some ['0'], none⟩,
                ⟨isDigits_zero, fun _ => Nat.le_refl 1,
                  fun _ h => Option.some.inj h ▸ isDigits_zero, fun _ h => nomatch h⟩, rfl, rfl⟩
            · rename_i hmantissa
              exact exists_layout (Decimal.isFull_shortest hmantissa) _
          refine ⟨l, hl, ?_⟩
          rw [← Option.some.inj hcs, hbody, Literal.text, hnegative]
        · cases hcs
      · exact .inr rfl

/-- What the text of a number is read as. -/
def readNumber (n : Number) : Reading := (ofChars (numberChars n)).1

/-- A number is read as the literal that it is written as. -/
theorem readNumber_of_text {n : Number} {l : Literal} (hl : l.IsWellFormed)
    (htext : numberChars n = l.text) : readNumber n = l.value := by
  have hread := valueAt_text hl endsValue_nil l.text.length
  rw [List.append_nil] at hread
  simp only [readNumber, ofChars]
  rw [htext, hread]

/-- The text of a number is read to its end, whatever may follow. -/
theorem valueAt_numberChars (n : Number) (fuel : Nat) {rest : List Char} (hrest : EndsValue rest) :
    valueAt (fuel + 1) (numberChars n ++ rest) = (readNumber n, rest) := by
  rcases exists_literal n with ⟨l, hl, htext⟩ | hnull
  · rw [readNumber_of_text hl htext, htext, valueAt_text hl hrest]
  · simp only [readNumber, ofChars]
    rw [hnull]
    rfl

/-- An exact whole number is read back as itself. -/
theorem readNumber_whole {n : Int} (hn : IsExact n) :
    readNumber (.whole n) = .number (.whole n) := by
  rw [readNumber_of_text (wholeLiteral_isWellFormed _ _) (numberChars_whole n)]
  obtain ⟨hlow, hhigh⟩ := hn
  by_cases hnegative : n < 0
  · rw [decide_eq_true hnegative, value_wholeLiteral_neg (by omega) (by omega)]
    simp only [Reading.number.injEq, Number.whole.injEq]
    omega
  · rw [decide_eq_false hnegative, value_wholeLiteral (by simp only [Decimal.maxSignificand]; omega)]
    simp only [Reading.number.injEq, Number.whole.injEq]
    omega

/-- The text of a number begins neither with white space nor like the end of an array. -/
theorem numberChars_begins (n : Number) :
    ∃ c more, numberChars n = c :: more ∧ isSpace c = false ∧ c ≠ ']' := by
  rcases exists_literal n with ⟨l, hl, htext⟩ | hnull
  · obtain ⟨c, more, hcons, rfl | hc⟩ := text_begins hl
    · exact ⟨'-', more, htext.trans hcons, rfl, by decide⟩
    · exact ⟨c, more, htext.trans hcons, isSpace_of_isDigit hc, ne_of_isDigit hc rfl⟩
  · exact ⟨'n', _, hnull, rfl, by decide⟩

/-- A number is written with digits, the four signs of a literal and the letters of `null`. -/
theorem not_mem_numberChars {c : Char} (hdigit : c.isDigit = false)
    (hc : c ∉ ['.', 'e', '+', '-', 'n', 'u', 'l']) (n : Number) : c ∉ numberChars n := by
  intro hmem
  rcases exists_literal n with ⟨l, hl, htext⟩ | hnull
  · rw [htext] at hmem
    rcases isLiteralChar_of_mem_text hl hmem with h | h
    · exact absurd (hdigit.symm.trans h) Bool.false_ne_true
    · exact hc (List.mem_append_left ['n', 'u', 'l'] h)
  · rw [hnull] at hmem
    simp only [List.mem_cons, List.not_mem_nil, or_false] at hmem
    rcases hmem with rfl | rfl | rfl | rfl <;> exact hc (by decide)

/-- Whatever a number is written as is JSON to its end. -/
theorem isWhole_readNumber (n : Number) : (readNumber n).isWhole = true := by
  rcases exists_literal n with ⟨l, hl, htext⟩ | hnull
  · rw [readNumber_of_text hl htext]
    exact l.isWhole_value
  · simp only [readNumber, ofChars]
    rw [hnull]
    rfl

end RobotMaze.Json
