import RobotMaze.Json.Reading

/-! # Quoted text in settings

    Text stands between double quotes, with escapes, or between single quotes,
    as it is; three quotes in a row let it run over several lines.

    * `text?` reads the rest of a text after its opening double quote, or after
      its opening three;
    * `plain?` and `plainLines?` do the same for single quotes. -/

namespace RobotMaze.Toml

/-- A space or a tab. -/
def isBlank (c : Char) : Bool := c == ' ' || c == '\t'

/-- A character that may stand in a text or a comment as it is. -/
def isPrintable (c : Char) : Bool := c == '\t' || (32 ≤ c.toNat && c.toNat != 127)

/-- The rest of a text after a line break at its start, if there is one. -/
def afterBreak? : List Char → Option (List Char)
  | '\n' :: rest => some rest
  | '\r' :: '\n' :: rest => some rest
  | _ => none

/-- The rest of a text without a line break at its start. -/
def dropBreak (cs : List Char) : List Char := (afterBreak? cs).getD cs

/-- The text and the rest behind it, with a character in front of the text. -/
def push (c : Char) : Option (List Char × List Char) → Option (List Char × List Char)
  | some (text, rest) => some (c :: text, rest)
  | none => none

/-- The rest of a text of several lines, after one of its closing quotes, if two more follow: up
    to two quotes in front of the last three belong to the text. -/
def closing? (quote : Char) (cs : List Char) : Option (List Char × List Char) :=
  let quotes := cs.takeWhile (· == quote)
  if quotes.length < 2 then none
  else
    let own := (quotes.drop 2).take 2
    some (own, cs.drop (own.length + 2))

/-! ## Escapes -/

/-- Where the reading of a text with escapes stands. -/
inductive Place where
  | plain
  /-- Behind a backslash. -/
  | escape
  /-- Within the digits of an escape, with the digits left and the number so far. -/
  | digits (left number : Nat)
  /-- Behind a backslash that ends a line: white space does not count. -/
  | gap
  deriving DecidableEq, Repr

/-- The character of a number. -/
def charOfNumber? (n : Nat) : Option Char := if n.isValidChar then some (Char.ofNat n) else none

/-- The character of an escape with one letter. -/
def escaped? (c : Char) : Option Char := if c = '/' then none else Json.Reading.simpleEscape? c

/-- Reads the rest of a text with escapes.  The flag says whether it may run over several lines. -/
def text? (lines : Bool) (place : Place) : List Char → Option (List Char × List Char)
  | [] => none
  | c :: rest =>
      match place with
      | .escape =>
          if c = 'u' then text? lines (.digits 4 0) rest
          else if c = 'U' then text? lines (.digits 8 0) rest
          else if lines && (afterBreak? ((c :: rest).dropWhile isBlank)).isSome then
            text? lines .gap rest
          else
            match escaped? c with
            | some d => push d (text? lines .plain rest)
            | none => none
      | .digits left number =>
          match Json.Reading.hexValue? c with
          | none => none
          | some digit =>
              let number := number * 16 + digit
              if left = 1 then
                match charOfNumber? number with
                | some d => push d (text? lines .plain rest)
                | none => none
              else text? lines (.digits (left - 1) number) rest
      | place =>
          if c = '"' then
            if lines then
              match closing? '"' rest with
              | some closed => some closed
              | none => push c (text? lines .plain rest)
            else some ([], rest)
          else if c = '\\' then text? lines .escape rest
          else if place = .gap ∧ isBlank c then text? lines .gap rest
          else if c = '\n' then
            if place = .gap then text? lines .gap rest
            else if lines then push c (text? lines .plain rest)
            else none
          else if c = '\r' then
            if lines && rest.head? == some '\n' then text? lines place rest else none
          else if isPrintable c then push c (text? lines .plain rest)
          else none

/-! ## Text as it is -/

/-- Reads the rest of a text between single quotes. -/
def plain? : List Char → Option (List Char × List Char)
  | [] => none
  | c :: rest =>
      if c = '\'' then some ([], rest)
      else if isPrintable c then push c (plain? rest)
      else none

/-- Reads the rest of a text of several lines between single quotes. -/
def plainLines? : List Char → Option (List Char × List Char)
  | [] => none
  | c :: rest =>
      if c = '\'' then
        match closing? '\'' rest with
        | some closed => some closed
        | none => push c (plainLines? rest)
      else if c = '\r' then
        if rest.head? == some '\n' then plainLines? rest else none
      else if c = '\n' ∨ isPrintable c then push c (plainLines? rest)
      else none

end RobotMaze.Toml
