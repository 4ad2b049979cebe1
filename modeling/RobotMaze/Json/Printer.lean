import RobotMaze.Json.Basic
import RobotMaze.Decimal

/-! # JSON text — compact and indented

    * `Json.render` writes a value without any blanks;
    * `Json.renderIndented` puts every item and member on a line of its own,
      two blanks deeper than what holds it.

    In strings only the quote, the backslash and control characters are
    escaped. -/

namespace RobotMaze.Json

/-- A hexadecimal digit. -/
def hexDigit (n : Nat) : Char :=
  if n < 10 then Char.ofNat (48 + n) else Char.ofNat (87 + n)

/-- The written form of one character of a string. -/
def escapeChar (c : Char) : List Char :=
  if c = '"' then ['\\', '"']
  else if c = '\\' then ['\\', '\\']
  else if c.toNat = 8 then ['\\', 'b']
  else if c.toNat = 12 then ['\\', 'f']
  else if c = '\n' then ['\\', 'n']
  else if c = '\r' then ['\\', 'r']
  else if c = '\t' then ['\\', 't']
  else if c.toNat < 32 then
    ['\\', 'u', '0', '0', hexDigit (c.toNat / 16), hexDigit (c.toNat % 16)]
  else [c]

/-- A string between quotes. -/
def quote (s : String) : List Char :=
  '"' :: (s.toList.flatMap escapeChar ++ ['"'])

/-- The text of a number; what is not finite has no text of its own and is written `null`. -/
def numberChars : Number → List Char
  | .whole n => (toString n).toList
  | .float x =>
      match Decimal.render? x with
      | some cs => cs
      | none => ['n', 'u', 'l', 'l']

/-- The opening brace of an object. -/
def openBrace : Char := '\x7b'

/-- The closing brace of an object. -/
def closeBrace : Char := '\x7d'

mutual

/-- The characters of a value, without blanks. -/
def chars : Json → List Char
  | .null => ['n', 'u', 'l', 'l']
  | .bool true => ['t', 'r', 'u', 'e']
  | .bool false => ['f', 'a', 'l', 's', 'e']
  | .number n => numberChars n
  | .string s => quote s
  | .array [] => ['[', ']']
  | .array (item :: rest) => '[' :: (chars item ++ itemChars rest)
  | .object [] => [openBrace, closeBrace]
  | .object ((k, v) :: rest) =>
      openBrace :: (quote k ++ ':' :: (chars v ++ memberChars rest))

/-- The items after the first, and the closing bracket. -/
def itemChars : List Json → List Char
  | [] => [']']
  | item :: rest => ',' :: (chars item ++ itemChars rest)

/-- The members after the first, and the closing brace. -/
def memberChars : List (String × Json) → List Char
  | [] => [closeBrace]
  | (k, v) :: rest => ',' :: (quote k ++ ':' :: (chars v ++ memberChars rest))

end

/-- A value as text without blanks. -/
def render (j : Json) : String := String.ofList (chars j)

/-- A line break and the blanks of a depth. -/
def lineBreak (depth : Nat) : List Char := '\n' :: List.replicate (2 * depth) ' '

mutual

/-- The characters of a value that stands at a depth, one item or member to a line. -/
def indentedChars (depth : Nat) : Json → List Char
  | .array [] => ['[', ']']
  | .array (item :: rest) =>
      '[' :: (lineBreak (depth + 1) ++ indentedChars (depth + 1) item
        ++ indentedItems depth rest)
  | .object [] => [openBrace, closeBrace]
  | .object ((k, v) :: rest) =>
      openBrace :: (lineBreak (depth + 1) ++ quote k ++ [':', ' ']
        ++ indentedChars (depth + 1) v ++ indentedMembers depth rest)
  | .null => chars .null
  | .bool b => chars (.bool b)
  | .number n => numberChars n
  | .string s => quote s

/-- The items after the first, and the closing bracket. -/
def indentedItems (depth : Nat) : List Json → List Char
  | [] => lineBreak depth ++ [']']
  | item :: rest =>
      ',' :: (lineBreak (depth + 1) ++ indentedChars (depth + 1) item
        ++ indentedItems depth rest)

/-- The members after the first, and the closing brace. -/
def indentedMembers (depth : Nat) : List (String × Json) → List Char
  | [] => lineBreak depth ++ [closeBrace]
  | (k, v) :: rest =>
      ',' :: (lineBreak (depth + 1) ++ quote k ++ [':', ' ']
        ++ indentedChars (depth + 1) v ++ indentedMembers depth rest)

end

/-- A value as text with one item or member to a line. -/
def renderIndented (j : Json) : String := String.ofList (indentedChars 0 j)

end RobotMaze.Json
