import RobotMaze.Json.Decoder
import RobotMaze.Json.Printer
import RobotMaze.Proofs.Text.Digits

/-! # Strings and white space — written and read back

    * `quoted_quote` — between quotes every string is read back, whatever
      characters it has;
    * `mem_escapeChar` — a character is written as itself or with the signs of an
      escape, so no string has a line break in it (`newline_not_mem_quote`);
    * `skipSpace_append`, `skipSpace_cons` — white space is passed over, and nothing
      else is. -/

namespace RobotMaze.Json

/-! ## Written form -/

/-- What escapes are written with. -/
def escapeSigns : List Char :=
  ['\\', '"', 'b', 'f', 'n', 'r', 't', 'u', '0', '1', '2', '3', '4', '5', '6', '7', '8', '9', 'a', 'c',
    'd', 'e']

/-- A character is written as itself or with the signs of an escape. -/
theorem mem_escapeChar {c d : Char} (h : d ∈ escapeChar c) : d = c ∨ d ∈ escapeSigns := by
  have hdigit : ∀ n < 16, hexDigit n ∈ escapeSigns := by decide
  have hsigns : ∀ {cs : List Char}, d ∈ cs → cs.all escapeSigns.contains = true →
      d ∈ escapeSigns :=
    fun hd hcs => List.contains_iff_mem.mp (List.all_eq_true.mp hcs d hd)
  simp only [escapeChar] at h
  split at h
  · exact .inr (hsigns h rfl)
  split at h
  · exact .inr (hsigns h rfl)
  split at h
  · exact .inr (hsigns h rfl)
  split at h
  · exact .inr (hsigns h rfl)
  split at h
  · exact .inr (hsigns h rfl)
  split at h
  · exact .inr (hsigns h rfl)
  split at h
  · exact .inr (hsigns h rfl)
  split at h
  · have hhigh := hdigit (c.toNat / 16) (by omega)
    have hlow := hdigit (c.toNat % 16) (by omega)
    rcases List.mem_append.mp (show d ∈ ['\\', 'u', '0', '0'] ++ [_, _] from h) with h | h
    · exact .inr (hsigns h rfl)
    · rcases List.mem_cons.mp h with rfl | h
      · exact .inr hhigh
      · exact .inr (List.mem_singleton.mp h ▸ hlow)
  · exact .inl (List.mem_singleton.mp h)

theorem newline_not_mem_escapeChar (c : Char) : '\n' ∉ escapeChar c := by
  intro h
  rcases mem_escapeChar h with rfl | hsign
  · exact absurd h (by decide)
  · exact absurd hsign (by decide)

theorem newline_not_mem_quote (s : String) : '\n' ∉ quote s := by
  simp only [quote, List.mem_cons, List.mem_append, List.mem_flatMap, List.not_mem_nil, or_false,
    not_or, not_exists, not_and]
  exact ⟨by decide, fun c _ => newline_not_mem_escapeChar c, by decide⟩

namespace Reading

/-! ## Strings -/

theorem hexValue?_hexDigit : ∀ n < 16, hexValue? (hexDigit n) = some n := by decide

/-- A control character is read back from its number. -/
theorem quoted_control {n : Nat} (hn : n < 32) (tail : List Char) :
    quoted ('\\' :: 'u' :: '0' :: '0' :: hexDigit (n / 16) :: hexDigit (n % 16) :: tail)
      = (quoted tail).push (some (Char.ofNat n)) := by
  have hfour : hexFour? '0' '0' (hexDigit (n / 16)) (hexDigit (n % 16)) = some n := by
    have hzero : hexValue? '0' = some 0 := by decide
    simp only [hexFour?, hzero, hexValue?_hexDigit (n / 16) (by omega),
      hexValue?_hexDigit (n % 16) (by omega)]
    congr 1
    omega
  have hhigh : isHighSurrogate n = false := by
    simp only [isHighSurrogate, Bool.and_eq_false_iff, decide_eq_false_iff_not]
    omega
  have hlow : isLowSurrogate n = false := by
    simp only [isLowSurrogate, Bool.and_eq_false_iff, decide_eq_false_iff_not]
    omega
  -- another escape of this kind may follow, and then the two are looked at together
  by_cases htail : ∃ a b c d rest, tail = '\\' :: 'u' :: a :: b :: c :: d :: rest
  · obtain ⟨a, b, c, d, rest, rfl⟩ := htail
    rw [quoted, hfour]
    simp only [hhigh, hlow]
    rfl
  · rw [quoted, hfour]
    · simp only [hhigh, hlow]
      rfl
    · exact fun a b c d rest h => htail ⟨a, b, c, d, rest, h⟩

/-- An escape with one letter stands for its character. -/
theorem quoted_simple {c d : Char} (hc : c ≠ 'u') (h : simpleEscape? c = some d)
    (tail : List Char) : quoted ('\\' :: c :: tail) = (quoted tail).push (some d) := by
  rw [quoted, h]
  · exact fun _ _ _ _ _ _ _ _ _ h => absurd h hc
  · exact fun _ _ _ _ _ h => absurd h hc

/-- Any other character stands for itself. -/
theorem quoted_plain {c : Char} (hquote : c ≠ '"') (hslash : c ≠ '\\') (hcontrol : ¬ c.toNat < 32)
    (tail : List Char) : quoted (c :: tail) = (quoted tail).push (some c) := by
  rw [quoted]
  · rw [if_neg (not_or.mpr ⟨hcontrol, hslash⟩)]
  · exact fun h => absurd h hquote
  · exact fun _ _ _ _ _ _ _ _ _ h => absurd h hslash
  · exact fun _ _ _ _ _ h => absurd h hslash
  · exact fun _ _ h => absurd h hslash

/-- The written form of a character is read back as that character. -/
theorem quoted_escapeChar (c : Char) (tail : List Char) :
    quoted (escapeChar c ++ tail) = (quoted tail).push (some c) := by
  have hnumber : Char.ofNat c.toNat = c := Char.ofNat_toNat c
  simp only [escapeChar]
  by_cases hquote : c = '"'
  · rw [if_pos hquote, hquote]
    exact quoted_simple (by decide) rfl tail
  rw [if_neg hquote]
  by_cases hslash : c = '\\'
  · rw [if_pos hslash, hslash]
    exact quoted_simple (by decide) rfl tail
  rw [if_neg hslash]
  by_cases hback : c.toNat = 8
  · rw [if_pos hback, ← hnumber, hback]
    exact quoted_simple (by decide) rfl tail
  rw [if_neg hback]
  by_cases hfeed : c.toNat = 12
  · rw [if_pos hfeed, ← hnumber, hfeed]
    exact quoted_simple (by decide) rfl tail
  rw [if_neg hfeed]
  by_cases hline : c = '\n'
  · rw [if_pos hline, hline]
    exact quoted_simple (by decide) rfl tail
  rw [if_neg hline]
  by_cases hreturn : c = '\r'
  · rw [if_pos hreturn, hreturn]
    exact quoted_simple (by decide) rfl tail
  rw [if_neg hreturn]
  by_cases htab : c = '\t'
  · rw [if_pos htab, htab]
    exact quoted_simple (by decide) rfl tail
  rw [if_neg htab]
  by_cases hcontrol : c.toNat < 32
  · rw [if_pos hcontrol]
    refine (quoted_control hcontrol tail).trans ?_
    rw [hnumber]
  · rw [if_neg hcontrol]
    exact quoted_plain hquote hslash hcontrol tail

/-- A string is read back up to the quote that closes it. -/
theorem quoted_flatMap (cs rest : List Char) :
    quoted (cs.flatMap escapeChar ++ '"' :: rest) = .closed (some cs) rest := by
  induction cs with
  | nil =>
      rw [List.flatMap_nil, List.nil_append, quoted]
  | cons c cs ih =>
      rw [List.flatMap_cons, List.append_assoc, quoted_escapeChar, ih]
      rfl

theorem quoted_quote (s : String) (rest : List Char) :
    ∃ body, quote s ++ rest = '"' :: body ∧ quoted body = .closed (some s.toList) rest := by
  refine ⟨s.toList.flatMap escapeChar ++ '"' :: rest, ?_, quoted_flatMap _ rest⟩
  simp only [quote, List.cons_append, List.append_assoc, List.nil_append]

/-! ## White space -/

theorem skipSpace_append {gap : List Char} (hgap : ∀ c ∈ gap, isSpace c = true) (cs : List Char) :
    skipSpace (gap ++ cs) = skipSpace cs :=
  List.dropWhile_append_of_pos hgap

theorem skipSpace_cons {c : Char} (hc : isSpace c = false) (cs : List Char) :
    skipSpace (c :: cs) = c :: cs := by
  simp [skipSpace, hc]

theorem ne_of_isDigit {c d : Char} (hc : c.isDigit = true) (hd : d.isDigit = false) : c ≠ d := by
  rintro rfl
  exact Bool.false_ne_true (hd.symm.trans hc)

theorem isSpace_of_isDigit {c : Char} (hc : c.isDigit = true) : isSpace c = false := by
  simp only [isSpace, Bool.or_eq_false_iff, beq_eq_false_iff_ne]
  exact ⟨⟨⟨ne_of_isDigit hc rfl, ne_of_isDigit hc rfl⟩, ne_of_isDigit hc rfl⟩, ne_of_isDigit hc rfl⟩

end Reading

end RobotMaze.Json
