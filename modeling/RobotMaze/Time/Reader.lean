import RobotMaze.Text.Blank
import RobotMaze.Text.Number
import RobotMaze.Time.Instant

/-! # Reading time — three grammars

    * `Instant.ofRfc3339?` — RFC 3339 with fields of fixed width, where the
      letter between date and time may be a blank and the offset may be written
      with the minus sign U+2212;
    * `Instant.ofLoose?` — the same order of fields with one or two digits each,
      blanks around them, a signed year, and an offset with or without its
      colon or the letters `UTC`;
    * `Instant.ofPattern?` — a local time in a fixed pattern, taken as UTC.

    Each accepts only times that the calendar has. -/

namespace RobotMaze.Time

open RobotMaze.Text (isBlank)

/-- What a text says about a time. -/
structure Fields where
  year : Int := 1970
  month : Nat := 1
  day : Nat := 1
  hour : Nat := 0
  minute : Nat := 0
  second : Nat := 0
  nano : Nat := 0
  /-- Seconds east of Greenwich. -/
  offset : Int := 0

/-- The instant that the fields name, if each is within its range.  Second 60 is a leap second. -/
def Fields.instant? (f : Fields) : Option Instant := do
  let date ← Date.of? f.year f.month f.day
  if f.hour ≤ 23 ∧ f.minute ≤ 59 ∧ f.second ≤ 60 ∧ f.offset.natAbs < 86400 then
    let leap := f.second = 60
    let second := if leap then 59 else f.second
    let nano := if leap then f.nano + Instant.nanosPerSecond else f.nano
    let shown := Instant.onDay date.dayNumber (f.hour * 3600 + f.minute * 60 + second) nano
    ({ shown with second := shown.second - f.offset }).checked?
  else none

/-- A text without the blanks at its start. -/
def skipBlanks (cs : List Char) : List Char := cs.dropWhile isBlank

/-- Reads at least `least` and at most `most` digits. -/
def readNumber (least most : Nat) (cs : List Char) : Option (Nat × List Char) :=
  let digits := (cs.take most).takeWhile Char.isDigit
  if digits.length < least then none
  else some (Text.ofDigits digits, cs.drop digits.length)

/-- Reads one given character. -/
def readChar (c : Char) : List Char → Option (List Char)
  | d :: rest => if d = c then some rest else none
  | [] => none

/-- Reads the letter between date and time. -/
def readSeparator : List Char → Option (List Char)
  | c :: rest => if c = 'T' ∨ c = 't' ∨ c = ' ' then some rest else none
  | [] => none

/-- Reads a point and the places after it, of which nine count; none at all is zero. -/
def readFraction : List Char → Option (Nat × List Char)
  | '.' :: rest => do
      let (n, after) ← readNumber 1 9 rest
      let places := rest.length - after.length
      return (n * Nat.pow 10 (9 - places), after.dropWhile Char.isDigit)
  | cs => some (0, cs)

/-- Reads a sign. -/
def readSign : List Char → Option (Int × List Char)
  | c :: rest =>
      if c = '+' then some (1, rest)
      else if c = '-' ∨ c.toNat = 0x2212 then some (-1, rest)
      else none
  | [] => none

/-- Reads an offset: `Z`, or a sign, hours and minutes with what `between` skips between them. -/
def readOffset (between : List Char → Option (List Char)) :
    List Char → Option (Int × List Char)
  | cs =>
      match cs with
      | c :: rest =>
          if c = 'Z' ∨ c = 'z' then some (0, rest)
          else do
            let (sign, cs) ← readSign cs
            let (hours, cs) ← readNumber 2 2 cs
            let cs ← between cs
            let (minutes, cs) ← readNumber 2 2 cs
            if minutes ≤ 59 then return (sign * (hours * 3600 + minutes * 60 : Nat), cs)
            else none
      | [] => none

/-- Skips colons and blanks, if there are any. -/
def skipColons (cs : List Char) : Option (List Char) :=
  some (cs.dropWhile fun c => c == ':' || isBlank c)

/-- Reads the three letters `UTC` in either case. -/
def readUtc : List Char → Option (List Char)
  | a :: b :: c :: rest =>
      if (a = 'U' ∨ a = 'u') ∧ (b = 'T' ∨ b = 't') ∧ (c = 'C' ∨ c = 'c') then some rest else none
  | _ => none

/-- Reads the year of a loose text: signed with any number of digits, or up to four digits. -/
def readYear (cs : List Char) : Option (Int × List Char) :=
  match skipBlanks cs with
  | '-' :: rest => (readNumber 1 rest.length rest).map fun (n, rest) => (-(n : Int), rest)
  | '+' :: rest => (readNumber 1 rest.length rest).map fun (n, rest) => ((n : Int), rest)
  | cs => (readNumber 1 4 cs).map fun (n, rest) => ((n : Int), rest)

/-- Reads one or two digits after any blanks. -/
def readPair (cs : List Char) : Option (Nat × List Char) := readNumber 1 2 (skipBlanks cs)

namespace Instant

/-- The instant of an RFC 3339 text. -/
def ofRfc3339? (s : String) : Option Instant := do
  let (year, cs) ← readNumber 4 4 s.toList
  let cs ← readChar '-' cs
  let (month, cs) ← readNumber 2 2 cs
  let cs ← readChar '-' cs
  let (day, cs) ← readNumber 2 2 cs
  let cs ← readSeparator cs
  let (hour, cs) ← readNumber 2 2 cs
  let cs ← readChar ':' cs
  let (minute, cs) ← readNumber 2 2 cs
  let cs ← readChar ':' cs
  let (second, cs) ← readNumber 2 2 cs
  let (nano, cs) ← readFraction cs
  let (offset, cs) ← readOffset (readChar ':') cs
  if cs.isEmpty then Fields.instant? ⟨year, month, day, hour, minute, second, nano, offset⟩
  else none

/-- The instant of a loosely written text with an offset. -/
def ofLoose? (s : String) : Option Instant := do
  let (year, cs) ← readYear s.toList
  let cs ← readChar '-' (skipBlanks cs)
  let (month, cs) ← readPair cs
  let cs ← readChar '-' (skipBlanks cs)
  let (day, cs) ← readPair cs
  let cs ← readSeparator cs
  let (hour, cs) ← readPair cs
  let cs ← readChar ':' (skipBlanks cs)
  let (minute, cs) ← readPair cs
  let cs ← readChar ':' (skipBlanks cs)
  let (second, cs) ← readPair cs
  let (nano, cs) ← readFraction cs
  let cs := skipBlanks cs
  let (offset, cs) ← match readUtc cs with
    | some rest => some ((0 : Int), rest)
    | none => readOffset skipColons cs
  if (skipBlanks cs).isEmpty then
    Fields.instant? ⟨year, month, day, hour, minute, second, nano, offset⟩
  else none

end Instant

/-! ## Patterns -/

/-- One part of a pattern. -/
inductive Part where
  | year
  | month
  | day
  | hour
  | minute
  | second
  | fraction
  | blanks
  | letter (c : Char)
  deriving DecidableEq, Repr

/-- Reads one part of a pattern into the fields. -/
def Part.read (f : Fields) (cs : List Char) : Part → Option (Fields × List Char)
  | .year => (readYear cs).map fun (n, rest) => ({ f with year := n }, rest)
  | .month => (readPair cs).map fun (n, rest) => ({ f with month := n }, rest)
  | .day => (readPair cs).map fun (n, rest) => ({ f with day := n }, rest)
  | .hour => (readPair cs).map fun (n, rest) => ({ f with hour := n }, rest)
  | .minute => (readPair cs).map fun (n, rest) => ({ f with minute := n }, rest)
  | .second => (readPair cs).map fun (n, rest) => ({ f with second := n }, rest)
  | .fraction => (readFraction cs).map fun (n, rest) => ({ f with nano := n }, rest)
  | .blanks => some (f, skipBlanks cs)
  | .letter c => (readChar c cs).map fun rest => (f, rest)

/-- Reads the parts of a pattern one after the other, up to the end of the text. -/
def readParts (f : Fields) (cs : List Char) : List Part → Option Fields
  | [] => if cs.isEmpty then some f else none
  | part :: rest =>
      match part.read f cs with
      | some (f, cs) => readParts f cs rest
      | none => none

/-- The date `2026-03-10`. -/
def datePattern : List Part := [.year, .letter '-', .month, .letter '-', .day]

/-- The time `12:30`. -/
def minutePattern : List Part := [.hour, .letter ':', .minute]

/-- The time `12:30:00`. -/
def secondPattern : List Part := minutePattern ++ [.letter ':', .second]

namespace Instant

/-- The instant of a local time in a pattern, taken as UTC. -/
def ofPattern? (pattern : List Part) (s : String) : Option Instant := do
  let f ← readParts {} s.toList pattern
  f.instant?

/-- The instant of a time as the store keeps it: RFC 3339, or date and time of day with a blank
    between them. -/
def ofStored? (s : String) : Option Instant :=
  ofRfc3339? s <|> ofPattern? (datePattern ++ [.blanks] ++ secondPattern) s

/-- The instant of an export date: RFC 3339, or a local time with or without seconds. -/
def ofExportDate? (s : String) : Option Instant :=
  ofRfc3339? s
    <|> ofPattern? (datePattern ++ [.letter 'T'] ++ secondPattern ++ [.fraction]) s
    <|> ofPattern? (datePattern ++ [.letter 'T'] ++ minutePattern) s

/-- The end of the range that a filter's bound closes. -/
inductive BoundSide where
  | lower
  | upper
  deriving DecidableEq, Repr

/-- The time of day that a bare date stands for: its first instant as a lower bound, its last
    millisecond as an upper one. -/
def BoundSide.ofDate (side : BoundSide) (midnight : Instant) : Instant :=
  match side with
  | .lower => midnight
  | .upper => ⟨midnight.second + 86399, 999000000⟩

/-- The instant of a filter's bound: RFC 3339, a local time, or a bare date. -/
def ofBound? (side : BoundSide) (s : String) : Option Instant :=
  ofRfc3339? s
    <|> ofPattern? (datePattern ++ [.letter 'T'] ++ secondPattern) s
    <|> ofPattern? (datePattern ++ [.letter 'T'] ++ minutePattern) s
    <|> (ofPattern? datePattern s).map side.ofDate

end Instant

end RobotMaze.Time
