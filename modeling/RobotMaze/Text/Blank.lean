/-! # Blank characters — Unicode white space and trimming

    A name, a password or a search term is judged without the white space
    around it.  White space here is the Unicode property `White_Space`, which
    is wider than the ASCII class of `Char.isWhitespace`:

    * `isBlank` is the property, `trim` cuts it off both ends of a text;
    * `trim_trim` — a trimmed text is its own trim. -/

namespace RobotMaze.Text

/-- The Unicode property `White_Space`. -/
def isBlank (c : Char) : Bool :=
  let n := c.toNat
  (9 ≤ n && n ≤ 13) || n == 0x20 || n == 0x85 || n == 0xA0 || n == 0x1680
    || (0x2000 ≤ n && n ≤ 0x200A) || n == 0x2028 || n == 0x2029 || n == 0x202F
    || n == 0x205F || n == 0x3000

/-- A list of characters without the blanks at its end. -/
def dropBlankEnd : List Char → List Char
  | [] => []
  | c :: rest =>
      match dropBlankEnd rest with
      | [] => if isBlank c then [] else [c]
      | kept => c :: kept

/-- A list of characters without the blanks at its start. -/
def dropBlankStart (cs : List Char) : List Char :=
  cs.dropWhile isBlank

/-- A list of characters without the blanks at either end. -/
def trimChars (cs : List Char) : List Char :=
  dropBlankEnd (dropBlankStart cs)

/-- A text without the white space at either end. -/
def trim (s : String) : String :=
  String.ofList (trimChars s.toList)

/-- A text without the white space at its end. -/
def trimEnd (s : String) : String :=
  String.ofList (dropBlankEnd s.toList)

/-- Whether a text holds nothing but white space. -/
def isBlankText (s : String) : Bool :=
  (trim s).isEmpty

/-- Core's ASCII class lies inside the Unicode property. -/
theorem isBlank_of_isWhitespace {c : Char} (h : c.isWhitespace = true) : isBlank c = true := by
  simp only [Char.isWhitespace, Bool.or_eq_true, decide_eq_true_eq] at h
  rcases h with ((h | h) | h) | h <;> subst h <;> decide

/-- What is left after cutting the end is a leading part. -/
theorem dropBlankEnd_append_blank (cs : List Char) :
    ∃ blanks, cs = dropBlankEnd cs ++ blanks ∧ blanks.all isBlank = true := by
  induction cs with
  | nil => exact ⟨[], rfl, rfl⟩
  | cons c rest ih =>
      obtain ⟨blanks, hsplit, hblank⟩ := ih
      by_cases hrest : dropBlankEnd rest = []
      · by_cases hc : isBlank c = true
        · refine ⟨c :: blanks, ?_, by simp [hc, hblank]⟩
          simp [dropBlankEnd, hrest, hc] at hsplit ⊢
          exact hsplit
        · refine ⟨blanks, ?_, hblank⟩
          simp [dropBlankEnd, hrest, hc] at hsplit ⊢
          exact hsplit
      · refine ⟨blanks, ?_, hblank⟩
        have hcons : dropBlankEnd (c :: rest) = c :: dropBlankEnd rest := by
          simp [dropBlankEnd]
        rw [hcons, List.cons_append, ← hsplit]

/-- Cutting the end once is enough. -/
theorem dropBlankEnd_dropBlankEnd (cs : List Char) :
    dropBlankEnd (dropBlankEnd cs) = dropBlankEnd cs := by
  induction cs with
  | nil => rfl
  | cons c rest ih =>
      by_cases hrest : dropBlankEnd rest = []
      · by_cases hc : isBlank c = true <;> simp [dropBlankEnd, hrest, hc]
      · have hcons : dropBlankEnd (c :: rest) = c :: dropBlankEnd rest := by
          simp [dropBlankEnd]
        rw [hcons]
        simp [dropBlankEnd, ih]

/-- Cutting the end of a text that starts with no blank leaves it so. -/
theorem dropBlankStart_dropBlankEnd {cs : List Char} (h : dropBlankStart cs = cs) :
    dropBlankStart (dropBlankEnd cs) = dropBlankEnd cs := by
  cases cs with
  | nil => rfl
  | cons c rest =>
      have hc : isBlank c = false := by
        by_cases hb : isBlank c = true
        · have hlen := congrArg List.length h
          have hle : (rest.dropWhile isBlank).length ≤ rest.length :=
            (List.dropWhile_sublist isBlank).length_le
          simp [dropBlankStart, List.dropWhile, hb] at hlen
          omega
        · simpa using hb
      by_cases hrest : dropBlankEnd rest = []
      · simp [dropBlankEnd, hrest, hc, dropBlankStart]
      · have hcons : dropBlankEnd (c :: rest) = c :: dropBlankEnd rest := by
          simp [dropBlankEnd]
        simp [hcons, dropBlankStart, hc]

/-- Trimming the characters once is enough. -/
theorem trimChars_trimChars (cs : List Char) : trimChars (trimChars cs) = trimChars cs := by
  have hstart : dropBlankStart (dropBlankStart cs) = dropBlankStart cs := by
    unfold dropBlankStart
    induction cs with
    | nil => rfl
    | cons c rest ih =>
        by_cases hc : isBlank c = true
        · simpa [List.dropWhile, hc] using ih
        · simp [List.dropWhile, hc]
  unfold trimChars
  rw [dropBlankStart_dropBlankEnd hstart, dropBlankEnd_dropBlankEnd]

/-- A trimmed text is its own trim. -/
theorem trim_trim (s : String) : trim (trim s) = trim s := by
  simp [trim, trimChars_trimChars]

end RobotMaze.Text
