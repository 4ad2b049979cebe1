/-! # Numbers and truth values in a text

    A query, an argument or a variable gives numbers as text: digits, perhaps
    behind a sign, with nothing before or after them.

    * `whole?` — a whole number of any size; `int64?`, `uint16?` and `uint32?`
      hold it within bounds;
    * `bool?` — `true` or `false`. -/

namespace RobotMaze.Text

/-- The sign in front of digits: a plus or, where it is allowed, a minus. -/
def sign (allowsMinus : Bool) : List Char → Bool × List Char
  | '+' :: rest => (false, rest)
  | '-' :: rest => if allowsMinus then (true, rest) else (false, '-' :: rest)
  | cs => (false, cs)

/-- The number that digits spell. -/
def ofDigits (ds : List Char) : Nat := ds.foldl (fun n c => n * 10 + (c.toNat - 48)) 0

/-- The whole number of a text. -/
def whole? (allowsMinus : Bool) (text : String) : Option Int :=
  let (isNegative, ds) := sign allowsMinus text.toList
  if ds.isEmpty || !ds.all Char.isDigit then none
  else some (if isNegative then -ofDigits ds else ofDigits ds)

/-- The number of 64 bits of a text. -/
def int64? (text : String) : Option Int :=
  (whole? true text).filter fun n => -0x8000000000000000 ≤ n && n < 0x8000000000000000

/-- The number of 16 bits, from zero on, of a text. -/
def uint16? (text : String) : Option UInt16 :=
  ((whole? false text).filter fun n => n < 0x10000).map fun n => UInt16.ofNat n.toNat

/-- The number of 32 bits, from zero on, of a text. -/
def uint32? (text : String) : Option UInt32 :=
  ((whole? false text).filter fun n => n < 0x100000000).map fun n => UInt32.ofNat n.toNat

/-- The truth value of a text. -/
def bool? (text : String) : Option Bool :=
  if text = "true" then some true else if text = "false" then some false else none

end RobotMaze.Text
