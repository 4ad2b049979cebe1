import RobotMaze.Text.LowerCase

/-! # Search patterns — wild cards, escapes and matching

    A stored text is searched with a pattern in which `%` stands for any run of
    characters, `_` for any one character, and a backslash takes the character
    after it literally.  ASCII letters match in either case.

    * `Pattern.containing term` is the pattern that a search for `term` uses:
      the lower-cased term with its special characters escaped, between two `%`;
    * `Pattern.pieces` reads a pattern, `Pattern.fits` matches the pieces;
    * `pieces_containing` — a search term has no wild card of its own. -/

namespace RobotMaze.Text.Pattern

/-- What one place of a pattern stands for. -/
inductive Piece where
  /-- Any run of characters, the empty one included. -/
  | anyRun
  /-- Any one character. -/
  | anyOne
  /-- This character, an ASCII letter in either case. -/
  | letter (c : Char)
  deriving DecidableEq, Repr

/-- A character that a pattern reads as more than itself. -/
def isSpecial (c : Char) : Bool := c == '%' || c == '_' || c == '\\'

/-- Puts a backslash before each special character. -/
def escape : List Char → List Char
  | [] => []
  | c :: rest => if isSpecial c then '\\' :: c :: escape rest else c :: escape rest

/-- The pattern of the texts that contain a term, in either case of its letters. -/
def containing (term : String) : String :=
  String.ofList ('%' :: (escape (lowerChars term.toList) ++ ['%']))

/-- Reads a pattern; a backslash with nothing after it makes it unusable. -/
def pieces : List Char → Option (List Piece)
  | [] => some []
  | '%' :: rest => (pieces rest).map (Piece.anyRun :: ·)
  | '_' :: rest => (pieces rest).map (Piece.anyOne :: ·)
  | '\\' :: c :: rest => (pieces rest).map (Piece.letter c :: ·)
  | ['\\'] => none
  | c :: rest => (pieces rest).map (Piece.letter c :: ·)

/-- Equal up to the case of ASCII letters. -/
def sameLetter (a b : Char) : Bool := asciiLowerChar a == asciiLowerChar b

/-- Whether some tail of a list, the list itself included, satisfies a test. -/
def anyTail (test : List Char → Bool) : List Char → Bool
  | [] => test []
  | c :: rest => test (c :: rest) || anyTail test rest

/-- Whether the pieces match the whole of a text. -/
def fits : List Piece → List Char → Bool
  | [], text => text.isEmpty
  | .anyRun :: rest, text => anyTail (fits rest) text
  | .anyOne :: rest, _ :: more => fits rest more
  | .letter c :: rest, d :: more => sameLetter c d && fits rest more
  | _ :: _, [] => false

/-- A pattern and a text both end at a NUL character. -/
def untilNul (cs : List Char) : List Char := cs.takeWhile (· ≠ '\x00')

/-- Whether a pattern matches a text; an unusable pattern matches none. -/
def matchesText (pattern text : String) : Bool :=
  match pieces (untilNul pattern.toList) with
  | some ps => fits ps (untilNul text.toList)
  | none => false

/-- Whether a text contains a search term: the text in ASCII lower case is held against the
    term's pattern. -/
def contains (term text : String) : Bool :=
  matchesText (containing term) (asciiLower text)

/-- An escaped text is read back letter by letter. -/
theorem pieces_escape (cs rest : List Char) :
    pieces (escape cs ++ rest) = (pieces rest).map (cs.map Piece.letter ++ ·) := by
  induction cs with
  | nil => simp [escape]
  | cons c more ih =>
      by_cases hc : isSpecial c = true
      · simp [escape, hc, pieces, ih, Function.comp_def]
      · have hplain : c ≠ '%' ∧ c ≠ '_' ∧ c ≠ '\\' := by
          simp [isSpecial] at hc
          exact ⟨hc.1.1, hc.1.2, hc.2⟩
        simp [escape, hc, pieces, hplain.1, hplain.2.1, hplain.2.2, ih, Function.comp_def]

/-- A search term has no wild card of its own. -/
theorem pieces_containing (term : String) :
    pieces (containing term).toList
      = some (.anyRun :: ((lowerChars term.toList).map Piece.letter ++ [.anyRun])) := by
  simp [containing, pieces, pieces_escape]

end RobotMaze.Text.Pattern
