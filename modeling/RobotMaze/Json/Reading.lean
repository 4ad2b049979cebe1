import RobotMaze.Json.Basic
import RobotMaze.Decimal

/-! # Reading JSON text

    A text is read as far as it is JSON.  What was read is a `Reading`: a value,
    or the part of one before the text stops being JSON.  Keeping that part lets
    a decoder say which fault comes first, a value of the wrong kind or a text
    that is no JSON.

    * `Reading.ofChars` reads one value and returns the rest of the text;
    * `Reading.ofJson` is the reading of a value itself;
    * `Reading.value?` turns a whole reading into a value, nesting at most 127
      levels deep, with the last member of each name. -/

namespace RobotMaze.Json

/-- What was read of a text. -/
inductive Reading where
  | null
  | bool (b : Bool)
  | number (n : Number)
  | string (s : String)
  /-- The items read; `closed` says whether the closing bracket was reached. -/
  | array (items : List Reading) (closed : Bool)
  /-- The members read; `closed` says whether the closing brace was reached. -/
  | object (members : List (String × Reading)) (closed : Bool)
  /-- A well-formed number or string without a value: a number that is too large, or half of a
      surrogate pair. -/
  | valueless
  /-- Here the text stops being JSON. -/
  | broken

namespace Reading

instance : Inhabited Reading := ⟨.broken⟩

/-- White space between tokens. -/
def isSpace (c : Char) : Bool := c == ' ' || c == '\n' || c == '\t' || c == '\r'

/-- A text without the white space at its start. -/
def skipSpace (cs : List Char) : List Char := cs.dropWhile isSpace

/-! ## Strings -/

/-- The value of a hexadecimal digit. -/
def hexValue? (c : Char) : Option Nat :=
  if '0' ≤ c ∧ c ≤ '9' then some (c.toNat - 48)
  else if 'a' ≤ c ∧ c ≤ 'f' then some (c.toNat - 87)
  else if 'A' ≤ c ∧ c ≤ 'F' then some (c.toNat - 55)
  else none

/-- The value of four hexadecimal digits. -/
def hexFour? (a b c d : Char) : Option Nat :=
  match hexValue? a, hexValue? b, hexValue? c, hexValue? d with
  | some a, some b, some c, some d => some (((a * 16 + b) * 16 + c) * 16 + d)
  | _, _, _, _ => none

/-- The character of an escape with one letter. -/
def simpleEscape? (c : Char) : Option Char :=
  if c = '"' then some '"'
  else if c = '\\' then some '\\'
  else if c = '/' then some '/'
  else if c = 'b' then some (Char.ofNat 8)
  else if c = 'f' then some (Char.ofNat 12)
  else if c = 'n' then some '\n'
  else if c = 'r' then some '\r'
  else if c = 't' then some '\t'
  else none

/-- A string as read: its characters, or none for half of a surrogate pair, and the rest of the
    text after the closing quote. -/
inductive Quoted where
  | closed (value : Option (List Char)) (rest : List Char)
  | broken

/-- Puts a character in front of a string. -/
def Quoted.push (c : Option Char) : Quoted → Quoted
  | .closed value rest =>
      .closed (match c, value with | some c, some cs => some (c :: cs) | _, _ => none) rest
  | .broken => .broken

/-- Whether a code unit is the first half of a surrogate pair. -/
def isHighSurrogate (n : Nat) : Bool := 0xD800 ≤ n && n < 0xDC00

/-- Whether a code unit is the second half of a surrogate pair. -/
def isLowSurrogate (n : Nat) : Bool := 0xDC00 ≤ n && n < 0xE000

/-- The character of a surrogate pair. -/
def pairChar (high low : Nat) : Char :=
  Char.ofNat (0x10000 + (high - 0xD800) * 1024 + (low - 0xDC00))

/-- The rest of a string after its opening quote. -/
def quoted : List Char → Quoted
  | [] => .broken
  | '"' :: rest => .closed (some []) rest
  | '\\' :: 'u' :: a :: b :: c :: d :: '\\' :: 'u' :: a' :: b' :: c' :: d' :: rest =>
      match hexFour? a b c d with
      | none => .broken
      | some n =>
          match isHighSurrogate n, hexFour? a' b' c' d' with
          | true, some n' =>
              if isLowSurrogate n' then (quoted rest).push (some (pairChar n n'))
              else (quoted ('\\' :: 'u' :: a' :: b' :: c' :: d' :: rest)).push none
          | true, none => .broken
          | false, _ =>
              (quoted ('\\' :: 'u' :: a' :: b' :: c' :: d' :: rest)).push
                (if isLowSurrogate n then none else some (Char.ofNat n))
  | '\\' :: 'u' :: a :: b :: c :: d :: rest =>
      match hexFour? a b c d with
      | none => .broken
      | some n =>
          (quoted rest).push
            (if isHighSurrogate n || isLowSurrogate n then none else some (Char.ofNat n))
  | '\\' :: c :: rest =>
      match simpleEscape? c with
      | some d => (quoted rest).push (some d)
      | none => .broken
  | c :: rest => if c.toNat < 32 ∨ c = '\\' then .broken else (quoted rest).push (some c)

/-! ## Numbers -/

/-- The value of a decimal digit. -/
def digitValue (c : Char) : Nat := c.toNat - 48

/-- The digits at the start of a text, and the rest. -/
def splitDigits (cs : List Char) : List Char × List Char :=
  (cs.takeWhile Char.isDigit, cs.dropWhile Char.isDigit)

/-- Collects digits while they fit; returns what was collected and how many were left over. -/
def collect (significand : Nat) : List Char → Nat × Nat
  | [] => (significand, 0)
  | c :: rest =>
      let next := significand * 10 + digitValue c
      if next ≤ Decimal.maxSignificand then collect next rest
      else (significand, rest.length + 1)

/-- A number with the sign, the digits before and after the point and the exponent as written.
    `fraction` and `exponent` are none where the number has no such part. -/
structure Literal where
  negative : Bool
  digits : List Char
  fraction : Option (List Char)
  exponent : Option (Bool × List Char)

/-- The exponent of a number as written, kept within the range that matters. -/
def exponentValue (negative : Bool) (digits : List Char) : Int :=
  let n : Int := (digits.foldl (fun n c => min (n * 10 + digitValue c) 10000000000) 0 : Nat)
  if negative then -n else n

/-- The exponent beyond which a number is too large, or zero, whatever its digits. -/
def exponentLimit : Int := 0x7FFFFFFF

/-- The value of a number. -/
def Literal.value (l : Literal) : Reading :=
  let (whole, dropped) := collect 0 l.digits
  match l.fraction, l.exponent with
  | none, none =>
      if dropped = 0 ∧ ¬ l.negative then .number (.whole whole)
      else if dropped = 0 ∧ 0 < whole ∧ whole ≤ 0x8000000000000000 then
        .number (.whole (-(whole : Int)))
      else match Decimal.ofDigits? l.negative whole dropped with
        | some x => .number (.float x)
        | none => .valueless
  | _, _ =>
      let fraction := l.fraction.getD []
      let (significand, ignored) := collect whole fraction
      let places := fraction.length - ignored
      let start : Int := (dropped : Int) - places
      match l.exponent with
      | none =>
          match Decimal.ofDigits? l.negative significand start with
          | some x => .number (.float x)
          | none => .valueless
      | some (negative, digits) =>
          let e := exponentValue negative digits
          if exponentLimit < e.natAbs then
            if significand ≠ 0 ∧ ¬ negative then .valueless
            else .number (.float (if l.negative then -0.0 else 0.0))
          else match Decimal.ofDigits? l.negative significand (start + e) with
            | some x => .number (.float x)
            | none => .valueless

/-- Reads the exponent of a number, if there is one. -/
def exponentPart (cs : List Char) : Option (Option (Bool × List Char) × List Char) :=
  match cs with
  | c :: rest =>
      if c = 'e' ∨ c = 'E' then
        let (negative, rest) := match rest with
          | '-' :: rest => (true, rest)
          | '+' :: rest => (false, rest)
          | _ => (false, rest)
        let (digits, rest) := splitDigits rest
        if digits.isEmpty then none else some (some (negative, digits), rest)
      else some (none, cs)
  | [] => some (none, cs)

/-- Reads the places after the point, if there are any. -/
def fractionPart (cs : List Char) : Option (Option (List Char) × List Char) :=
  match cs with
  | '.' :: rest =>
      let (digits, rest) := splitDigits rest
      if digits.isEmpty then none else some (some digits, rest)
  | _ => some (none, cs)

/-- Reads a number after its sign. -/
def literal? (negative : Bool) (cs : List Char) : Option (Literal × List Char) :=
  let (digits, rest) := splitDigits cs
  if digits.isEmpty ∨ (digits.head? = some '0' ∧ 1 < digits.length) then none
  else match fractionPart rest with
    | none => none
    | some (fraction, rest) =>
        match exponentPart rest with
        | none => none
        | some (exponent, rest) => some (⟨negative, digits, fraction, exponent⟩, rest)

/-- Reads a number. -/
def numberAt (negative : Bool) (cs : List Char) : Reading × List Char :=
  match literal? negative cs with
  | some (l, rest) => (l.value, rest)
  | none => (.broken, [])

/-- The number of 32 bits that a member's name spells, by the rules for numbers. -/
def int32Key? (key : String) : Option Int :=
  let (negative, digits) := match key.toList with
    | '-' :: rest => (true, rest)
    | cs => (false, cs)
  match numberAt negative digits with
  | (.number (.whole n), []) => if -0x80000000 ≤ n ∧ n < 0x80000000 then some n else none
  | _ => none

/-! ## Values -/

/-- Reads the rest of a word of which the first letter was seen. -/
def word (letters : List Char) (value : Reading) (cs : List Char) : Reading × List Char :=
  if letters.isPrefixOf cs then (value, cs.drop letters.length) else (.broken, [])

mutual

/-- Reads one value after any white space.  The fuel is one more than the characters left. -/
def valueAt (fuel : Nat) (cs : List Char) : Reading × List Char :=
  match fuel with
  | 0 => (.broken, [])
  | fuel + 1 =>
      match skipSpace cs with
      | [] => (.broken, [])
      | c :: rest =>
          if c = 'n' then word ['u', 'l', 'l'] .null rest
          else if c = 't' then word ['r', 'u', 'e'] (.bool true) rest
          else if c = 'f' then word ['a', 'l', 's', 'e'] (.bool false) rest
          else if c = '-' then numberAt true rest
          else if c.isDigit then numberAt false (c :: rest)
          else if c = '"' then
            match quoted rest with
            | .closed (some s) rest => (.string (String.ofList s), rest)
            | .closed none rest => (.valueless, rest)
            | .broken => (.broken, [])
          else if c = '[' then
            match skipSpace rest with
            | ']' :: rest => (.array [] true, rest)
            | _ =>
                let (items, closed, rest) := itemsAt fuel rest
                (.array items closed, rest)
          else if c.toNat = 0x7B then
            match skipSpace rest with
            | d :: more =>
                if d.toNat = 0x7D then (.object [] true, more)
                else
                  let (members, closed, rest) := membersAt fuel (d :: more)
                  (.object members closed, rest)
            | [] => (.object [] false, [])
          else (.broken, [])

/-- Reads the items of an array, of which one must follow. -/
def itemsAt (fuel : Nat) (cs : List Char) : List Reading × Bool × List Char :=
  match fuel with
  | 0 => ([], false, [])
  | fuel + 1 =>
      let (item, rest) := valueAt fuel cs
      match skipSpace rest with
      | ']' :: rest => ([item], true, rest)
      | ',' :: rest =>
          let (items, closed, rest) := itemsAt fuel rest
          (item :: items, closed, rest)
      | _ => ([item], false, [])

/-- Reads the members of an object, of which one must follow. -/
def membersAt (fuel : Nat) (cs : List Char) : List (String × Reading) × Bool × List Char :=
  match fuel with
  | 0 => ([], false, [])
  | fuel + 1 =>
      match skipSpace cs with
      | '"' :: rest =>
          match quoted rest with
          | .closed (some key) rest =>
              let key := String.ofList key
              match skipSpace rest with
              | ':' :: rest =>
                  let (value, rest) := valueAt fuel rest
                  match skipSpace rest with
                  | ',' :: rest =>
                      let (members, closed, rest) := membersAt fuel rest
                      ((key, value) :: members, closed, rest)
                  | c :: rest =>
                      if c.toNat = 0x7D then ([(key, value)], true, rest)
                      else ([(key, value)], false, [])
                  | [] => ([(key, value)], false, [])
              | _ => ([(key, .broken)], false, [])
          | _ => ([], false, [])
      | _ => ([], false, [])

end

/-- Reads one value; returns what was read and the rest of the text. -/
def ofChars (cs : List Char) : Reading × List Char := valueAt (cs.length + 1) cs

/-! ## Readings of values -/

mutual

/-- The reading of a value. -/
def ofJson : Json → Reading
  | .null => .null
  | .bool b => .bool b
  | .number n => .number n
  | .string s => .string s
  | .array items => .array (ofItems items) true
  | .object members => .object (ofMembers members) true

/-- The readings of the items of an array. -/
def ofItems : List Json → List Reading
  | [] => []
  | item :: rest => ofJson item :: ofItems rest

/-- The readings of the members of an object. -/
def ofMembers : List (String × Json) → List (String × Reading)
  | [] => []
  | (k, v) :: rest => (k, ofJson v) :: ofMembers rest

end

mutual

/-- Whether the text was JSON to the end of this value. -/
def isWhole : Reading → Bool
  | .broken => false
  | .array items closed => wholeItems items && closed
  | .object members closed => wholeMembers members && closed
  | .null => true
  | .bool _ => true
  | .number _ => true
  | .string _ => true
  | .valueless => true

/-- Whether all items were read to their end. -/
def wholeItems : List Reading → Bool
  | [] => true
  | item :: rest => isWhole item && wholeItems rest

/-- Whether all members were read to their end. -/
def wholeMembers : List (String × Reading) → Bool
  | [] => true
  | (_, v) :: rest => isWhole v && wholeMembers rest

end

mutual

/-- The value that was read, if it was read to its end and nests at most `depth` levels deep.  Of
    members with one name the last counts. -/
def value? (depth : Nat) : Reading → Option Json
  | .null => some .null
  | .bool b => some (.bool b)
  | .number n => some (.number n)
  | .string s => some (.string s)
  | .array items closed =>
      match depth with
      | 0 => none
      | depth + 1 => if closed then (values? depth items).map Json.array else none
  | .object members closed =>
      match depth with
      | 0 => none
      | depth + 1 => if closed then (members? depth [] members).map Json.object else none
  | .valueless => none
  | .broken => none

/-- The values of the items. -/
def values? (depth : Nat) : List Reading → Option (List Json)
  | [] => some []
  | item :: rest =>
      match value? depth item, values? depth rest with
      | some v, some vs => some (v :: vs)
      | _, _ => none

/-- The values of the members, put into key order. -/
def members? (depth : Nat) (done : List (String × Json)) :
    List (String × Reading) → Option (List (String × Json))
  | [] => some done
  | (k, r) :: rest =>
      match value? depth r with
      | some v => members? depth (Keyed.insert k v done) rest
      | none => none

end

end Reading

/-- The greatest depth to which the values of a text may nest. -/
def maxDepth : Nat := 127

/-- The value of a text that is JSON from end to end, with members in key order. -/
def parse? (text : String) : Option Json :=
  match Reading.ofChars text.toList with
  | (r, rest) => if rest.all Reading.isSpace then r.value? maxDepth else none

end RobotMaze.Json
