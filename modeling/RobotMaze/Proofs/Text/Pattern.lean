import RobotMaze.Text.Pattern

/-! # What a search finds

    A search holds the term in Unicode lower case against the text in ASCII lower
    case, and both end at a NUL character.

    * `IsPlain` — the two lower cases of a text are the same, as of all ASCII;
    * `mem_lowerAfter` — a letter of the Unicode lower case is one of the ASCII lower
      case, or lies behind the capitals of ASCII;
    * `anyTail_iff`, `fits_letters` — a run of any characters is skipped, and letters
      are a word in either case;
    * `Matches` — the rules by which a pattern matches a text, which the store follows
      up to a NUL (`matchesText_iff`);
    * `containing_matches_iff` — by them no character of a term is a wild card: its
      pattern matches the texts that have the lower-cased term as a part;
    * `pieces_untilNul` — the pattern of a term is its letters, up to a NUL;
    * `contains_iff` — so a text contains a term if the lower-cased term is somewhere
      in the text, and at its end if it has a NUL;
    * `contains_of_occurs` — which it is where a plain term occurs as it stands, unless
      a NUL comes before it;
    * `contains_self_iff` — one that is not plain is not found even in itself. -/

namespace RobotMaze.Text

/-! ## Lower case -/

theorem toList_asciiLower (s : String) :
    (asciiLower s).toList = s.toList.map asciiLowerChar :=
  String.toList_ofList

/-- The character of a code point has that code point. -/
theorem toNat_ofNat_of_isValidChar {n : Nat} (h : n.isValidChar) : (Char.ofNat n).toNat = n := by
  rw [Char.ofNat, dif_pos h]
  exact UInt32.toNat_ofNatLT

/-- A character stays as it is, or becomes one behind the capitals of ASCII. -/
theorem asciiLowerChar_cases (c : Char) :
    asciiLowerChar c = c ∨ 90 < (asciiLowerChar c).toNat := by
  by_cases hcapital : 'A' ≤ c ∧ c ≤ 'Z'
  · have hlow : 65 ≤ c.toNat := hcapital.1
    have hhigh : c.toNat ≤ 90 := hcapital.2
    have hsmall : asciiLowerChar c = Char.ofNat (c.toNat + 32) := if_pos hcapital
    right
    rw [hsmall, toNat_ofNat_of_isValidChar (Or.inl (by omega))]
    omega
  · exact Or.inl (if_neg hcapital)

/-- And there it stays. -/
theorem asciiLowerChar_of_lt {c : Char} (h : 90 < c.toNat) : asciiLowerChar c = c :=
  if_neg fun hcapital => absurd hcapital.2 (Nat.not_le_of_lt h)

theorem asciiLowerChar_asciiLowerChar (c : Char) :
    asciiLowerChar (asciiLowerChar c) = asciiLowerChar c := by
  rcases asciiLowerChar_cases c with hself | hlt
  · rw [hself, hself]
  · exact asciiLowerChar_of_lt hlt

/-- No letter becomes a NUL. -/
theorem eq_nul_of_asciiLowerChar {c : Char} (h : asciiLowerChar c = '\x00') : c = '\x00' := by
  rcases asciiLowerChar_cases c with hself | hlt
  · exact hself.symm.trans h
  · rw [h] at hlt
    exact absurd hlt (by decide)

theorem nul_mem_of_mem_map {cs : List Char} (h : '\x00' ∈ cs.map asciiLowerChar) : '\x00' ∈ cs := by
  obtain ⟨c, hc, heq⟩ := List.mem_map.mp h
  exact eq_nul_of_asciiLowerChar heq ▸ hc

/-- Both lower cases of a text are the same. -/
def IsPlain (s : String) : Prop := lower s = asciiLower s

instance (s : String) : Decidable (IsPlain s) := inferInstanceAs (Decidable (_ = _))

theorem isPlain_of_ascii {s : String} (h : ∀ c ∈ s.toList, c.toNat < 128) : IsPlain s :=
  congrArg String.ofList (lowerAfter_of_ascii h [])

/-- The tables lead to characters behind the capitals of ASCII. -/
theorem lt_of_mem_lowerRanges : ∀ r ∈ lowerRanges, 90 < (r.first : Int) + r.shift
    ∧ ((r.last : Int) + r.shift < 0xD800
      ∨ 0xDFFF < (r.first : Int) + r.shift ∧ (r.last : Int) + r.shift < 0x110000) := by
  decide +kernel

theorem lt_tableLowerChar {c : Char} (h : 90 < c.toNat) : 90 < (tableLowerChar c).toNat := by
  simp only [tableLowerChar]
  cases hfind : lowerRanges.find? fun r =>
      r.first ≤ c.toNat && c.toNat ≤ r.last && (c.toNat - r.first) % r.stride == 0 with
  | none => exact h
  | some r =>
      have hin := List.find?_some hfind
      simp only [Bool.and_eq_true, decide_eq_true_eq] at hin
      obtain ⟨⟨hfirst, hlast⟩, -⟩ := hin
      obtain ⟨hlow, hvalid⟩ := lt_of_mem_lowerRanges r (List.mem_of_find?_eq_some hfind)
      have hchar : Nat.isValidChar ((c.toNat : Int) + r.shift).toNat := by
        rcases hvalid with hvalid | ⟨hvalid, hhigh⟩
        · exact Or.inl (by omega)
        · exact Or.inr ⟨by omega, by omega⟩
      rw [toNat_ofNat_of_isValidChar hchar]
      omega

/-- One character has a lower case, and each character of that is the one in ASCII or lies behind
    its capitals. -/
theorem lowerChar_cases (c : Char) :
    lowerChar c ≠ [] ∧ ∀ d ∈ lowerChar c, d = asciiLowerChar c ∨ 90 < d.toNat := by
  simp only [lowerChar]
  split
  · exact ⟨List.cons_ne_nil _ _, fun d hd => Or.inl (List.mem_singleton.mp hd)⟩
  · split
    · refine ⟨List.cons_ne_nil _ _, fun d hd => Or.inr ?_⟩
      rcases List.mem_cons.mp hd with rfl | hd
      · decide
      · rw [List.mem_singleton.mp hd]
        decide
    · refine ⟨List.cons_ne_nil _ _, fun d hd => Or.inr ?_⟩
      rw [List.mem_singleton.mp hd]
      exact lt_tableLowerChar (by omega)

theorem mem_lowerAfter {before cs : List Char} {d : Char} (hd : d ∈ lowerAfter before cs) :
    (∃ c ∈ cs, d = asciiLowerChar c) ∨ 90 < d.toNat := by
  induction cs generalizing before with
  | nil => cases hd
  | cons c rest ih =>
      have hrest : d ∈ lowerAfter (c :: before) rest →
          (∃ e ∈ c :: rest, d = asciiLowerChar e) ∨ 90 < d.toNat := fun hmem =>
        (ih hmem).imp_left fun ⟨e, he, heq⟩ => ⟨e, List.mem_cons_of_mem c he, heq⟩
      simp only [lowerAfter] at hd
      split at hd
      · rcases List.mem_cons.mp hd with rfl | hd
        · right
          split <;> decide
        · exact hrest hd
      · rcases List.mem_append.mp hd with hd | hd
        · exact ((lowerChar_cases c).2 d hd).imp_left fun heq => ⟨c, List.mem_cons_self, heq⟩
        · exact hrest hd

theorem length_le_lowerAfter (before cs : List Char) :
    cs.length ≤ (lowerAfter before cs).length := by
  induction cs generalizing before with
  | nil => exact Nat.le_refl 0
  | cons c rest ih =>
      have hrest := ih (c :: before)
      simp only [lowerAfter]
      split
      · exact Nat.succ_le_succ hrest
      · have hchar := List.length_pos_iff.mpr (lowerChar_cases c).1
        rw [List.length_append, List.length_cons]
        omega

theorem asciiLowerChar_of_mem_lowerChars {cs : List Char} {d : Char} (hd : d ∈ lowerChars cs) :
    asciiLowerChar d = d := by
  rcases mem_lowerAfter hd with ⟨c, -, rfl⟩ | hlt
  · exact asciiLowerChar_asciiLowerChar c
  · exact asciiLowerChar_of_lt hlt

/-- Lower case has no NUL where the text has none. -/
theorem nul_mem_of_mem_lowerChars {cs : List Char} (h : '\x00' ∈ lowerChars cs) : '\x00' ∈ cs := by
  rcases mem_lowerAfter h with ⟨c, hc, heq⟩ | hlt
  · exact eq_nul_of_asciiLowerChar heq.symm ▸ hc
  · exact absurd hlt (by decide)

namespace Pattern

/-! ## Up to a NUL -/

section UntilNul

variable {as bs : List Char}

theorem untilNul_append_of_not_mem (h : '\x00' ∉ as) :
    untilNul (as ++ bs) = as ++ untilNul bs :=
  List.takeWhile_append_of_pos fun c hc =>
    decide_eq_true (fun heq => h (heq ▸ hc) : c ≠ '\x00')

theorem untilNul_eq_self (h : '\x00' ∉ as) : untilNul as = as := by
  have happend : untilNul (as ++ []) = as ++ untilNul [] := untilNul_append_of_not_mem h
  rwa [List.append_nil, untilNul, untilNul, List.takeWhile_nil, List.append_nil] at happend

/-- What follows a NUL does not matter. -/
theorem untilNul_append_of_mem (h : '\x00' ∈ as) : untilNul (as ++ bs) = untilNul as := by
  induction as with
  | nil => cases h
  | cons c rest ih =>
      simp only [untilNul, List.cons_append, List.takeWhile_cons]
      split
      · rename_i hc
        have hrest : '\x00' ∈ rest :=
          (List.mem_cons.mp h).resolve_left fun heq => of_decide_eq_true hc heq.symm
        exact congrArg (c :: ·) (ih hrest)
      · rfl

/-- Escaping adds no NUL and takes none away. -/
theorem mem_escape_nul {cs : List Char} : '\x00' ∈ escape cs ↔ '\x00' ∈ cs := by
  induction cs with
  | nil => rfl
  | cons c rest ih =>
      simp only [escape]
      split
      · rw [List.mem_cons, List.mem_cons, ih, List.mem_cons]
        exact or_iff_right (by decide)
      · rw [List.mem_cons, List.mem_cons, ih]

theorem untilNul_escape (cs : List Char) : untilNul (escape cs) = escape (untilNul cs) := by
  induction cs with
  | nil => rfl
  | cons c rest ih =>
      by_cases hc : c = '\x00'
      · subst hc
        rfl
      · have hcons : ∀ cs, untilNul (c :: cs) = c :: untilNul cs := fun cs =>
          List.takeWhile_cons_of_pos (decide_eq_true hc)
        have hslash : ∀ cs, untilNul ('\\' :: cs) = '\\' :: untilNul cs := fun _ => rfl
        rw [hcons]
        simp only [escape]
        split
        · rw [hslash, hcons, ih]
        · rw [hcons, ih]

end UntilNul

/-! ## Matching -/

/-- Some tail passes a test if a text can be split so that its second part does. -/
theorem anyTail_iff {test : List Char → Bool} {text : List Char} :
    anyTail test text = true ↔ ∃ before more, text = before ++ more ∧ test more = true := by
  induction text with
  | nil =>
      simp only [anyTail]
      constructor
      · intro h
        exact ⟨[], [], rfl, h⟩
      · rintro ⟨before, more, hsplit, h⟩
        rwa [(List.append_eq_nil_iff.mp hsplit.symm).2] at h
  | cons c rest ih =>
      simp only [anyTail, Bool.or_eq_true, ih]
      constructor
      · rintro (h | ⟨before, more, rfl, h⟩)
        · exact ⟨[], c :: rest, rfl, h⟩
        · exact ⟨c :: before, more, rfl, h⟩
      · rintro ⟨before, more, hsplit, h⟩
        cases before with
        | nil => exact Or.inl (hsplit ▸ h)
        | cons d before => exact Or.inr ⟨before, more, (List.cons.inj hsplit).2, h⟩

/-- A run of any characters at the end takes all that is left. -/
theorem fits_anyRun (text : List Char) : fits [.anyRun] text = true :=
  anyTail_iff.mpr ⟨text, [], (List.append_nil _).symm, rfl⟩

/-- Letters are a word, in either case, and what comes after it. -/
theorem fits_letters {letters text : List Char} {rest : List Piece} :
    fits (letters.map Piece.letter ++ rest) text = true
      ↔ ∃ word more, text = word ++ more
        ∧ word.map asciiLowerChar = letters.map asciiLowerChar ∧ fits rest more = true := by
  induction letters generalizing text with
  | nil =>
      constructor
      · intro h
        exact ⟨[], text, rfl, rfl, h⟩
      · rintro ⟨word, more, rfl, hword, h⟩
        rwa [List.map_eq_nil_iff.mp hword]
  | cons c letters ih =>
      cases text with
      | nil =>
          constructor
          · intro h
            cases h
          · rintro ⟨word, more, hsplit, hword, -⟩
            rw [(List.append_eq_nil_iff.mp hsplit.symm).1] at hword
            cases hword
      | cons d text =>
          simp only [List.map_cons, List.cons_append, fits, Bool.and_eq_true, sameLetter,
            beq_iff_eq, ih]
          constructor
          · rintro ⟨hc, word, more, rfl, hword, h⟩
            exact ⟨d :: word, more, rfl, by rw [List.map_cons, hword, hc], h⟩
          · rintro ⟨word, more, hsplit, hword, h⟩
            cases word with
            | nil => cases hword
            | cons e word =>
                obtain ⟨rfl, rfl⟩ := List.cons.inj hsplit
                obtain ⟨hc, hword⟩ := List.cons.inj hword
                exact ⟨hc.symm, word, more, rfl, hword, h⟩

/-! ## The rules of a pattern -/

/-- A pattern matches a text, by what its characters stand for one after the other. -/
inductive Matches : List Char → List Char → Prop where
  | nil : Matches [] []
  /-- A percent sign stands for any run of characters. -/
  | run {pattern text : List Char} (skipped : List Char) :
      Matches pattern text → Matches ('%' :: pattern) (skipped ++ text)
  /-- An underscore stands for any one character. -/
  | one {pattern text : List Char} (d : Char) :
      Matches pattern text → Matches ('_' :: pattern) (d :: text)
  /-- A character after a backslash stands for itself. -/
  | escaped {pattern text : List Char} {c d : Char} :
      sameLetter c d = true → Matches pattern text → Matches ('\\' :: c :: pattern) (d :: text)
  /-- So does one that is not special. -/
  | letter {pattern text : List Char} {c d : Char} : isSpecial c = false →
      sameLetter c d = true → Matches pattern text → Matches (c :: pattern) (d :: text)

theorem pieces_cons_of_not_isSpecial {c : Char} (hc : isSpecial c = false) (rest : List Char) :
    pieces (c :: rest) = (pieces rest).map (Piece.letter c :: ·) := by
  simp only [isSpecial, Bool.or_eq_false_iff, beq_eq_false_iff_ne] at hc
  simp [pieces, hc.1.1, hc.1.2, hc.2]

/-- What the pieces of a pattern match is what the rules say. -/
theorem matches_iff {pattern text : List Char} :
    Matches pattern text ↔ ∃ ps, pieces pattern = some ps ∧ fits ps text = true := by
  constructor
  · intro h
    induction h with
    | nil => exact ⟨[], rfl, rfl⟩
    | run skipped _ ih =>
        obtain ⟨ps, hps, hfits⟩ := ih
        exact ⟨.anyRun :: ps, by simp [pieces, hps], anyTail_iff.mpr ⟨skipped, _, rfl, hfits⟩⟩
    | one d _ ih =>
        obtain ⟨ps, hps, hfits⟩ := ih
        exact ⟨.anyOne :: ps, by simp [pieces, hps], hfits⟩
    | @escaped _ _ c d hsame _ ih =>
        obtain ⟨ps, hps, hfits⟩ := ih
        exact ⟨.letter c :: ps, by simp [pieces, hps], by simp [fits, hsame, hfits]⟩
    | @letter _ _ c d hc hsame _ ih =>
        obtain ⟨ps, hps, hfits⟩ := ih
        exact ⟨.letter c :: ps, by simp [pieces_cons_of_not_isSpecial hc, hps],
          by simp [fits, hsame, hfits]⟩
  · rintro ⟨ps, hps, hfits⟩
    induction pattern using pieces.induct generalizing ps text with
    | case1 =>
        obtain rfl : [] = ps := Option.some.inj hps
        obtain rfl : text = [] := List.isEmpty_iff.mp hfits
        exact .nil
    | case2 rest ih =>
        obtain ⟨more, hmore, rfl⟩ := Option.map_eq_some_iff.mp hps
        obtain ⟨skipped, after, rfl, hafter⟩ := anyTail_iff.mp hfits
        exact .run skipped (ih _ hmore hafter)
    | case3 rest ih =>
        obtain ⟨more, hmore, rfl⟩ := Option.map_eq_some_iff.mp hps
        cases text with
        | nil => cases hfits
        | cons d text => exact .one d (ih _ hmore hfits)
    | case4 c rest ih =>
        obtain ⟨more, hmore, rfl⟩ := Option.map_eq_some_iff.mp hps
        cases text with
        | nil => cases hfits
        | cons d text =>
            simp only [fits, Bool.and_eq_true] at hfits
            exact .escaped hfits.1 (ih _ hmore hfits.2)
    | case5 => cases hps
    | case6 c rest hrun hone hslash halone ih =>
        have hc : isSpecial c = false := by
          simp only [isSpecial, Bool.or_eq_false_iff, beq_eq_false_iff_ne]
          refine ⟨⟨hrun, hone⟩, fun heq => ?_⟩
          cases rest with
          | nil => exact halone heq rfl
          | cons d rest => exact hslash d rest heq rfl
        rw [pieces_cons_of_not_isSpecial hc] at hps
        obtain ⟨more, hmore, rfl⟩ := Option.map_eq_some_iff.mp hps
        cases text with
        | nil => cases hfits
        | cons d text =>
            simp only [fits, Bool.and_eq_true] at hfits
            exact .letter hc hfits.1 (ih _ hmore hfits.2)

/-- The store's matching is by the rules, on what comes before a NUL. -/
theorem matchesText_iff {pattern text : String} :
    matchesText pattern text = true
      ↔ Matches (untilNul pattern.toList) (untilNul text.toList) := by
  simp only [matchesText, matches_iff]
  cases pieces (untilNul pattern.toList) with
  | none => simp
  | some ps => simp

/-! ## Search terms -/

/-- The pattern of a term is its letters between two runs, and of a term with a NUL the letters
    before that, with a run in front of them only. -/
theorem pieces_untilNul (term : String) :
    pieces (untilNul (containing term).toList)
      = some (.anyRun :: ((untilNul (lowerChars term.toList)).map Piece.letter
        ++ if '\x00' ∈ lowerChars term.toList then [] else [.anyRun])) := by
  have hpercent : ∀ cs, untilNul ('%' :: cs) = '%' :: untilNul cs := fun _ => rfl
  have hrun : ∀ cs, pieces ('%' :: cs) = (pieces cs).map (Piece.anyRun :: ·) := fun _ => rfl
  rw [containing, String.toList_ofList, hpercent, hrun]
  by_cases hnul : '\x00' ∈ lowerChars term.toList
  · rw [if_pos hnul, untilNul_append_of_mem (mem_escape_nul.mpr hnul), untilNul_escape,
      ← List.append_nil (escape _), pieces_escape]
    rfl
  · rw [if_neg hnul, untilNul_append_of_not_mem (mt mem_escape_nul.mp hnul), pieces_escape,
      untilNul_eq_self hnul]
    rfl

/-- A text contains a term if the lower-cased term is somewhere in the text, in either case; and a
    term with a NUL, if what it has before that is what the text ends with. -/
theorem contains_iff {term text : String} :
    contains term text = true
      ↔ ∃ before word after, untilNul (asciiLower text).toList = before ++ (word ++ after)
        ∧ word.map asciiLowerChar = (untilNul (lowerChars term.toList)).map asciiLowerChar
        ∧ ('\x00' ∈ lowerChars term.toList → after = []) := by
  -- with a NUL the pattern ends where its letters do
  have hrest : ∀ more, fits (if '\x00' ∈ lowerChars term.toList then [] else [.anyRun]) more = true
      ↔ ('\x00' ∈ lowerChars term.toList → more = []) := by
    intro more
    by_cases hnul : '\x00' ∈ lowerChars term.toList
    · rw [if_pos hnul]
      simp only [fits, List.isEmpty_iff]
      exact ⟨fun h _ => h, fun h => h hnul⟩
    · rw [if_neg hnul]
      exact ⟨fun _ h => absurd h hnul, fun _ => fits_anyRun more⟩
  simp only [contains, matchesText, pieces_untilNul, fits, anyTail_iff, fits_letters, hrest]
  constructor
  · rintro ⟨before, _, hsplit, word, after, rfl, hword, hafter⟩
    exact ⟨before, word, after, hsplit, hword, hafter⟩
  · rintro ⟨before, word, after, hsplit, hword, hafter⟩
    exact ⟨before, word ++ after, hsplit, word, after, rfl, hword, hafter⟩

/-- By the rules a term's pattern matches the texts of which the lower-cased term is a part. -/
theorem matches_containing {term text : String} :
    Matches (containing term).toList (asciiLower text).toList
      ↔ (lower term).toList <:+: (asciiLower text).toList := by
  have hterm : (lowerChars term.toList).map asciiLowerChar = lowerChars term.toList :=
    (List.map_congr_left fun _ hd => asciiLowerChar_of_mem_lowerChars hd).trans (List.map_id _)
  simp only [matches_iff, pieces_containing, Option.some.injEq, exists_eq_left']
  show anyTail _ _ = true ↔ _
  simp only [anyTail_iff, fits_letters, fits_anyRun, and_true]
  rw [lower, String.toList_ofList, hterm]
  constructor
  · rintro ⟨before, _, hsplit, word, after, rfl, hword⟩
    -- what stands in the text is in lower case already
    have hsettled : word.map asciiLowerChar = word := by
      refine (List.map_congr_left fun d hd => ?_).trans (List.map_id _)
      have hin : d ∈ (asciiLower text).toList :=
        hsplit ▸ List.mem_append_right before (List.mem_append_left after hd)
      rw [toList_asciiLower] at hin
      obtain ⟨c, -, rfl⟩ := List.mem_map.mp hin
      exact asciiLowerChar_asciiLowerChar c
    rw [hsplit, ← hword, hsettled]
    exact ⟨before, after, List.append_assoc _ _ _⟩
  · rintro ⟨before, after, hsplit⟩
    refine ⟨before, _, ?_, lowerChars term.toList, after, rfl, hterm⟩
    rw [← hsplit, List.append_assoc]

/-- A character of a term is never a wild card: by the rules, and as the store matches where there
    is no NUL, a term's pattern matches a text just if the lower-cased term is a part of it. -/
theorem containing_matches_iff {term text : String} (htext : '\x00' ∉ text.toList) :
    (Matches (containing term).toList (asciiLower text).toList
        ↔ (lower term).toList <:+: (asciiLower text).toList)
      ∧ ('\x00' ∉ term.toList →
        (matchesText (containing term) (asciiLower text) = true
          ↔ (lower term).toList <:+: (asciiLower text).toList)) := by
  refine ⟨matches_containing, fun hterm => ?_⟩
  have hlower : '\x00' ∉ (asciiLower text).toList := by
    rw [toList_asciiLower]
    exact mt nul_mem_of_mem_map htext
  have hpattern : '\x00' ∉ (containing term).toList := by
    rw [containing, String.toList_ofList]
    simp only [List.mem_cons, List.mem_append, List.not_mem_nil, or_false, mem_escape_nul, not_or]
    exact ⟨by decide, mt nul_mem_of_mem_lowerChars hterm, by decide⟩
  rw [matchesText_iff, untilNul_eq_self hpattern, untilNul_eq_self hlower, matches_containing]

/-- `50%_Off` is found in a text that has it, and not where other characters stand in the places of
    its percent sign and underscore. -/
theorem containing_matches_literally :
    '\x00' ∉ "Now 50%_OFF!".toList ∧ '\x00' ∉ "Now 50 an OFF!".toList ∧ '\x00' ∉ "50%_Off".toList
      ∧ matchesText (containing "50%_Off") (asciiLower "Now 50%_OFF!") = true
      ∧ matchesText (containing "50%_Off") (asciiLower "Now 50 an OFF!") = false := by
  have hterm : '\x00' ∉ "50%_Off".toList := by decide
  have hfound : '\x00' ∉ "Now 50%_OFF!".toList := by decide
  have hother : '\x00' ∉ "Now 50 an OFF!".toList := by decide
  refine ⟨hfound, hother, hterm, ?_, ?_⟩
  · rw [(containing_matches_iff hfound).2 hterm]
    decide +kernel
  · rw [← Bool.not_eq_true, (containing_matches_iff hother).2 hterm]
    decide +kernel

/-- A plain term that occurs in a text as it stands is found there, if no NUL comes before it. -/
theorem contains_of_occurs {term text : String} (hplain : IsPlain term)
    {before after : List Char} (htext : text.toList = before ++ (term.toList ++ after))
    (hnul : '\x00' ∉ before) : contains term text = true := by
  have hlower : lowerChars term.toList = term.toList.map asciiLowerChar :=
    String.ofList_injective hplain
  have hbefore : '\x00' ∉ before.map asciiLowerChar := mt nul_mem_of_mem_map hnul
  rw [contains_iff, toList_asciiLower, htext, List.map_append, List.map_append, hlower,
    untilNul_append_of_not_mem hbefore]
  by_cases hterm : '\x00' ∈ term.toList.map asciiLowerChar
  · -- the text ends where the pattern does
    refine ⟨before.map asciiLowerChar, untilNul (term.toList.map asciiLowerChar), [], ?_, rfl,
      fun _ => rfl⟩
    rw [untilNul_append_of_mem hterm, List.append_nil]
  · refine ⟨before.map asciiLowerChar, term.toList.map asciiLowerChar,
      untilNul (after.map asciiLowerChar), ?_, ?_, fun h => absurd h hterm⟩
    · rw [untilNul_append_of_not_mem hterm]
    · rw [untilNul_eq_self hterm]

/-- A text is found by itself only if it is plain. -/
theorem contains_self_iff {text : String} (hnul : '\x00' ∉ text.toList) :
    contains text text = true ↔ IsPlain text := by
  constructor
  · intro h
    have hlower : '\x00' ∉ lowerChars text.toList := mt nul_mem_of_mem_lowerChars hnul
    have hascii : '\x00' ∉ text.toList.map asciiLowerChar := mt nul_mem_of_mem_map hnul
    have hsettled : (lowerChars text.toList).map asciiLowerChar = lowerChars text.toList :=
      (List.map_congr_left fun _ hd => asciiLowerChar_of_mem_lowerChars hd).trans (List.map_id _)
    rw [contains_iff, toList_asciiLower, untilNul_eq_self hascii, untilNul_eq_self hlower,
      hsettled] at h
    obtain ⟨before, word, after, hsplit, hword, -⟩ := h
    -- the word is no longer than the text, and the lower case is no shorter
    have hlength := congrArg List.length hsplit
    have hwordLength := congrArg List.length hword
    have hlonger : text.toList.length ≤ (lowerChars text.toList).length := length_le_lowerAfter [] _
    simp only [List.length_append, List.length_map] at hlength hwordLength
    have hbefore : before = [] := List.eq_nil_of_length_eq_zero (by omega)
    have hafter : after = [] := List.eq_nil_of_length_eq_zero (by omega)
    rw [hbefore, hafter, List.nil_append, List.append_nil] at hsplit
    refine congrArg String.ofList ?_
    rw [← hword, ← hsplit, List.map_map]
    exact List.map_congr_left fun c _ => asciiLowerChar_asciiLowerChar c
  · intro h
    exact contains_of_occurs h (List.append_nil _).symm List.not_mem_nil

end Pattern

end RobotMaze.Text
