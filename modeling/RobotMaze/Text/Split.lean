/-! # Splitting text at a character

    * `splitChars` — the pieces between the occurrences of a character; there is
      one piece more than there are occurrences;
    * `splitOnce?` — the parts before and after the first occurrence. -/

namespace RobotMaze.Text

/-- The pieces of a text between the occurrences of a character. -/
def splitChars (c : Char) : List Char → List (List Char)
  | [] => [[]]
  | d :: rest =>
      match splitChars c rest with
      | piece :: pieces => if d = c then [] :: piece :: pieces else (d :: piece) :: pieces
      | [] => [[]]

/-- The pieces of a text between the occurrences of a character. -/
def split (c : Char) (s : String) : List String := (splitChars c s.toList).map String.ofList

/-- The parts before and after the first occurrence of a character, if there is one. -/
def splitOnceChars? (c : Char) : List Char → Option (List Char × List Char)
  | [] => none
  | d :: rest =>
      if d = c then some ([], rest)
      else (splitOnceChars? c rest).map fun (before, after) => (d :: before, after)

/-- The parts before and after the first occurrence of a character, if there is one. -/
def splitOnce? (c : Char) (s : String) : Option (String × String) :=
  (splitOnceChars? c s.toList).map fun (before, after) =>
    (String.ofList before, String.ofList after)

/-- Texts with a separator between them. -/
def join (separator : String) (parts : List String) : String := separator.intercalate parts

/-- Every text has at least one piece. -/
theorem splitChars_ne_nil (c : Char) (cs : List Char) : splitChars c cs ≠ [] := by
  induction cs with
  | nil => simp [splitChars]
  | cons d rest ih =>
      cases hrest : splitChars c rest with
      | nil => exact absurd hrest ih
      | cons piece pieces => by_cases hd : d = c <;> simp [splitChars, hrest, hd]

/-- There is one piece more than there are occurrences. -/
theorem splitChars_length (c : Char) (cs : List Char) :
    (splitChars c cs).length = cs.count c + 1 := by
  induction cs with
  | nil => rfl
  | cons d rest ih =>
      cases hrest : splitChars c rest with
      | nil => exact absurd hrest (splitChars_ne_nil c rest)
      | cons piece pieces =>
          rw [hrest] at ih
          by_cases hd : d = c
          · subst hd
            simp [splitChars, hrest] at ih ⊢
            omega
          · simp [splitChars, hrest, hd] at ih ⊢
            omega

end RobotMaze.Text
