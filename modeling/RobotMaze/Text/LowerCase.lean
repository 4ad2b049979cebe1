import RobotMaze.Text.LowerCase.Table

/-! # Lower case — of all Unicode, and of ASCII only

    Two foldings meet in a search: the term is lower-cased by the full Unicode
    rule, the stored text by the ASCII rule of the store.

    * `lowerChars` — the Unicode rule, with the capital sigma that ends a word
      and the dotted capital I as its two special cases;
    * `asciiLower`, `asciiUpper` — letters `A`–`Z` and `a`–`z` only. -/

namespace RobotMaze.Text

/-- Whether a code point lies in one of the ranges. -/
def inRanges (ranges : List (Nat × Nat)) (n : Nat) : Bool :=
  ranges.any fun r => r.1 ≤ n && n ≤ r.2

/-- A letter that has case. -/
def isCased (c : Char) : Bool := inRanges casedRanges c.toNat

/-- A mark that the search for the end of a word passes over. -/
def isCaseIgnorable (c : Char) : Bool := inRanges ignorableRanges c.toNat

/-- The lower-case letter of an ASCII capital, any other character itself. -/
def asciiLowerChar (c : Char) : Char :=
  if 'A' ≤ c ∧ c ≤ 'Z' then Char.ofNat (c.toNat + 32) else c

/-- The capital of an ASCII small letter, any other character itself. -/
def asciiUpperChar (c : Char) : Char :=
  if 'a' ≤ c ∧ c ≤ 'z' then Char.ofNat (c.toNat - 32) else c

/-- A text with its ASCII capitals made small. -/
def asciiLower (s : String) : String := String.ofList (s.toList.map asciiLowerChar)

/-- A text with its ASCII small letters made capitals. -/
def asciiUpper (s : String) : String := String.ofList (s.toList.map asciiUpperChar)

/-- Whether two texts differ in the case of ASCII letters at most. -/
def sameIgnoringAsciiCase (s t : String) : Bool := asciiLower s == asciiLower t

/-- The one lower-case letter that the Unicode tables give a character. -/
def tableLowerChar (c : Char) : Char :=
  match lowerRanges.find? fun r =>
      r.first ≤ c.toNat && c.toNat ≤ r.last && (c.toNat - r.first) % r.stride == 0 with
  | some r => Char.ofNat (c.toNat + r.shift).toNat
  | none => c

/-- The lower case of one character away from the end of a word: the dotted capital I has two
    characters, every other character one. -/
def lowerChar (c : Char) : List Char :=
  if c.toNat < 128 then [asciiLowerChar c]
  else if c.toNat = 0x130 then ['i', Char.ofNat 0x307]
  else [tableLowerChar c]

/-- Whether, marks aside, the next character has case. -/
def nextIsCased (cs : List Char) : Bool :=
  match cs.dropWhile isCaseIgnorable with
  | [] => false
  | c :: _ => isCased c

/-- Lower-cases what follows the characters `before`, which stand nearest first. -/
def lowerAfter (before : List Char) : List Char → List Char
  | [] => []
  | c :: rest =>
      if c.toNat = 0x3A3 then
        let atWordEnd := nextIsCased before && !nextIsCased rest
        Char.ofNat (if atWordEnd then 0x3C2 else 0x3C3) :: lowerAfter (c :: before) rest
      else lowerChar c ++ lowerAfter (c :: before) rest

/-- The Unicode lower case of a list of characters. -/
def lowerChars (cs : List Char) : List Char := lowerAfter [] cs

/-- The Unicode lower case of a text. -/
def lower (s : String) : String := String.ofList (lowerChars s.toList)

/-- On one ASCII character the two rules agree. -/
theorem lowerChar_of_ascii {c : Char} (h : c.toNat < 128) : lowerChar c = [asciiLowerChar c] := by
  simp [lowerChar, h]

/-- On ASCII text the two rules agree. -/
theorem lowerAfter_of_ascii {cs : List Char} (h : ∀ c ∈ cs, c.toNat < 128) (before : List Char) :
    lowerAfter before cs = cs.map asciiLowerChar := by
  induction cs generalizing before with
  | nil => rfl
  | cons c rest ih =>
      have hc : c.toNat < 128 := h c (by simp)
      have hsigma : c.toNat ≠ 0x3A3 := by omega
      rw [lowerAfter, if_neg hsigma, lowerChar_of_ascii hc,
        ih (fun d hd => h d (List.mem_cons_of_mem c hd))]
      rfl

end RobotMaze.Text
