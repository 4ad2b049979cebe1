import RobotMaze.Json.Reading
import RobotMaze.Text.Number
import RobotMaze.Text.Split
import RobotMaze.Time.Reader

/-! # Bare words in settings — truth values, numbers, times

    A value without quotes is a word of letters, digits and a few signs.

    * `number?` — whole numbers in four bases and floating-point numbers, with
      single underscores between digits;
    * `isMoment` — times by RFC 3339, and parts of them: a time without an
      offset, a date, a time of day;
    * `word?` reads a word and says what it means. -/

namespace RobotMaze.Toml

open RobotMaze.Time (Instant)

/-! ## Numbers -/

/-- The digits of a number without the underscores, each of which stands between two digits. -/
def digits? (isDigit : Char → Bool) (cs : List Char) : Option (List Char) :=
  let groups := Text.splitChars '_' cs
  if groups.all fun g => !g.isEmpty && g.all isDigit then some groups.flatten else none

/-- Whether a character is a digit of a base. -/
def isDigitOf (base : Nat) (c : Char) : Bool := (Json.Reading.hexValue? c).any (· < base)

/-- The whole number of 64 bits. -/
def held? (n : Int) : Option Number :=
  if -0x8000000000000000 ≤ n ∧ n < 0x8000000000000000 then some (.whole n) else none

/-- The whole number of digits in a base. -/
def inBase? (base : Nat) (cs : List Char) : Option Number :=
  match digits? (isDigitOf base) cs with
  | some ds =>
      held? (ds.foldl (fun n c => n * base + (Json.Reading.hexValue? c).getD 0) 0 : Nat)
  | none => none

/-- The digits of a whole number in base ten, which has no zero in front. -/
def wholeDigits? (cs : List Char) : Option (List Char) :=
  (digits? Char.isDigit cs).filter fun ds => ds.length == 1 || ds.head? != some '0'

/-- The exponent of a number. -/
def exponent? (cs : List Char) : Option (Bool × List Char) :=
  let (isNegative, cs) := Text.sign true cs
  (digits? Char.isDigit cs).map fun ds => (isNegative, ds)

/-- A letter that starts an exponent. -/
def isExponentMark (c : Char) : Bool := c == 'e' || c == 'E'

/-- The value of a number in base ten, if it is not too large. -/
def decimal? (isNegative : Bool) (whole : List Char) (fraction : Option (List Char))
    (exponent : Option (Bool × List Char)) : Option Number :=
  match fraction, exponent with
  | none, none =>
      let n : Int := Text.ofDigits whole
      held? (if isNegative then -n else n)
  | _, _ =>
      match (Json.Reading.Literal.mk isNegative whole fraction exponent).value with
      | .number n => some n
      | _ => none

/-- The number of a word behind its sign, in base ten. -/
def unsigned? (isNegative : Bool) (cs : List Char) : Option Number := do
  let mantissa := cs.takeWhile fun c => !isExponentMark c
  let exponent ← match cs.drop mantissa.length with
    | [] => some none
    | _ :: rest => (exponent? rest).map some
  match Text.splitOnceChars? '.' mantissa with
  | none => decimal? isNegative (← wholeDigits? mantissa) none exponent
  | some (whole, fraction) =>
      decimal? isNegative (← wholeDigits? whole) (some (← digits? Char.isDigit fraction)) exponent

/-- The number of a word. -/
def number? (cs : List Char) : Option Number :=
  match cs with
  | '0' :: 'x' :: ds => inBase? 16 ds
  | '0' :: 'o' :: ds => inBase? 8 ds
  | '0' :: 'b' :: ds => inBase? 2 ds
  | _ =>
      let (isNegative, cs) := Text.sign true cs
      if cs = ['i', 'n', 'f'] then some (.float (if isNegative then -1.0 / 0.0 else 1.0 / 0.0))
      else if cs = ['n', 'a', 'n'] then some (.float (0.0 / 0.0))
      else unsigned? isNegative cs

/-! ## Times -/

/-- Whether a text is a time, perhaps without its offset, its time of day or its date. -/
def isMoment (text : String) : Bool :=
  [text, text ++ "Z", text ++ "T00:00:00Z", "1970-01-01T" ++ text ++ "Z"].any fun whole =>
    (Instant.ofRfc3339? whole).isSome

/-- A time, as an object of its own. -/
def moment (text : String) : Json := .object [("time", .string text)]

/-! ## Words -/

/-- A character of a bare word. -/
def isWordChar (c : Char) : Bool :=
  c.isAlphanum || c == '+' || c == '-' || c == '_' || c == '.' || c == ':'

/-- The meaning of a word. -/
def meaning? (cs : List Char) : Option Json :=
  match Text.bool? (String.ofList cs) with
  | some b => some (.bool b)
  | none =>
      match number? cs with
      | some n => some (.number n)
      | none =>
          let text := String.ofList cs
          if isMoment text then some (moment text) else none

/-- A date and a time of day with a space between them, and the rest. -/
def spacedMoment? (date : List Char) : List Char → Option (Json × List Char)
  | ' ' :: rest =>
      let time := rest.takeWhile isWordChar
      let text := String.ofList (date ++ ' ' :: time)
      if isMoment text then some (moment text, rest.drop time.length) else none
  | _ => none

/-- Reads a word. -/
def word? (cs : List Char) : Option (Json × List Char) :=
  let letters := cs.takeWhile isWordChar
  let rest := cs.drop letters.length
  match spacedMoment? letters rest with
  | some found => some found
  | none => (meaning? letters).map fun v => (v, rest)

end RobotMaze.Toml
