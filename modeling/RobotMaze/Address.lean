/-! # Network addresses

    An address is of version 4 — four numbers with points between them, without
    leading zeros — or of version 6 — eight groups of hexadecimal digits with
    colons between them, one run of zero groups left out, the last two groups
    also as an address of version 4.

    * `IpAddress.render` writes an address, its longest run of zeros left out;
    * `SocketAddress.parse?` reads an address with a port, `SocketAddress.render`
      writes it. -/

namespace RobotMaze

/-- The address of a machine, as its bytes or as its groups of 16 bits. -/
inductive IpAddress where
  | v4 (bytes : List Nat)
  | v6 (groups : List Nat)
  deriving DecidableEq, Repr

/-- The address of a service on a machine. -/
structure SocketAddress where
  ip : IpAddress
  /-- The zone of an address of version 6; zero is none. -/
  zone : Nat
  port : Nat
  deriving DecidableEq, Repr

namespace IpAddress

/-! ## Reading -/

/-- The value of a digit in a base of at most 16. -/
def digit? (base : Nat) (c : Char) : Option Nat :=
  let value :=
    if c.isDigit then c.toNat - 48
    else if 'a' ≤ c ∧ c ≤ 'f' then c.toNat - 87
    else if 'A' ≤ c ∧ c ≤ 'F' then c.toNat - 55
    else 16
  if value < base then some value else none

/-- The values of the digits at the front, and what follows them. -/
def digits (base : Nat) : List Char → List Nat × List Char
  | [] => ([], [])
  | c :: rest =>
      match digit? base c with
      | some value =>
          let (values, rest) := digits base rest
          (value :: values, rest)
      | none => ([], c :: rest)

/-- The number of digits. -/
def ofDigits (base : Nat) (values : List Nat) : Nat := values.foldl (fun n v => n * base + v) 0

/-- A number at the front, below a bound, of at most so many digits. -/
def number? (base bound most : Nat) (cs : List Char) : Option (Nat × List Char) :=
  let (values, rest) := digits base cs
  let n := ofDigits base values
  if values.isEmpty ∨ most < values.length ∨ bound ≤ n then none else some (n, rest)

/-- A given character at the front. -/
def mark? (c : Char) : List Char → Option (List Char)
  | d :: rest => if d = c then some rest else none
  | [] => none

/-- A number of an address of version 4. -/
def byte? (cs : List Char) : Option (Nat × List Char) := do
  let (n, rest) ← number? 10 256 3 cs
  if cs.head? = some '0' ∧ cs.length - rest.length ≠ 1 then none else some (n, rest)

/-- The numbers of an address of version 4, the first of which follows nothing. -/
def bytes? : Nat → List Char → Option (List Nat × List Char)
  | 0, cs => some ([], cs)
  | n + 1, cs => do
      let (a, cs) ← byte? cs
      let cs ← if n = 0 then some cs else mark? '.' cs
      let (more, cs) ← bytes? n cs
      return (a :: more, cs)

/-- An address of version 4 as two groups. -/
def embedded? (cs : List Char) : Option (List Nat × List Char) := do
  match ← bytes? 4 cs with
  | ([a, b, c, d], rest) => return ([a * 256 + b, c * 256 + d], rest)
  | _ => none

/-- What follows the colon before a group; the first group has none. -/
def afterColon? (isFirst : Bool) (cs : List Char) : Option (List Char) :=
  if isFirst then some cs else mark? ':' cs

/-- As many groups as there are, at most `n`; the flag says that they end in an address of
    version 4. -/
def groups (isFirst : Bool) : Nat → List Char → List Nat × Bool × List Char
  | 0, cs => ([], false, cs)
  | n + 1, cs =>
      match (afterColon? isFirst cs).bind fun cs => if n = 0 then none else embedded? cs with
      | some (pair, rest) => (pair, true, rest)
      | none =>
          match (afterColon? isFirst cs).bind (number? 16 65536 4) with
          | none => ([], false, cs)
          | some (g, rest) =>
              let (more, ended, rest) := groups false n rest
              (g :: more, ended, rest)

/-- An address of version 6 at the front. -/
def readV6? (cs : List Char) : Option (List Nat × List Char) := do
  let (head, ended, cs) := groups true 8 cs
  if head.length = 8 then return (head, cs)
  if ended then none
  let cs ← mark? ':' cs
  let cs ← mark? ':' cs
  let (tail, _, cs) := groups true (7 - head.length) cs
  return (head ++ List.replicate (8 - head.length - tail.length) 0 ++ tail, cs)

/-! ## Writing -/

/-- A number with hexadecimal digits. -/
def hex (n : Nat) : List Char := Nat.toDigits 16 n

/-- Groups with colons between them. -/
def groupChars : List Nat → List Char
  | [] => []
  | [g] => hex g
  | g :: rest => hex g ++ ':' :: groupChars rest

/-- The number of zeros at the front. -/
def zeros (groups : List Nat) : Nat := (groups.takeWhile (· == 0)).length

/-- Where the longest run of zeros begins, the first of equals, and how long it is. -/
def longestZeros : List Nat → Nat × Nat
  | [] => (0, 0)
  | g :: rest =>
      let (start, length) := longestZeros rest
      let here := zeros (g :: rest)
      if length ≤ here then (0, here) else (start + 1, length)

/-- Numbers with points between them. -/
def dotted (bytes : List Nat) : String := ".".intercalate (bytes.map toString)

/-- An address as text. -/
def render : IpAddress → String
  | .v4 bytes => dotted bytes
  | .v6 [0, 0, 0, 0, 0, 0xFFFF, a, b] =>
      "::ffff:" ++ dotted [a / 256, a % 256, b / 256, b % 256]
  | .v6 groups =>
      let (start, length) := longestZeros groups
      if 1 < length then
        String.ofList (groupChars (groups.take start) ++ ':' :: ':' ::
          groupChars (groups.drop (start + length)))
      else String.ofList (groupChars groups)

end IpAddress

namespace SocketAddress

open IpAddress (mark? number? bytes? readV6?)

/-- A port after its colon, with nothing behind it. -/
def port? (cs : List Char) : Option Nat := do
  let cs ← mark? ':' cs
  let (n, rest) ← number? 10 65536 cs.length cs
  if rest.isEmpty then some n else none

/-- An address of version 4 with a port. -/
def parseV4? (cs : List Char) : Option SocketAddress := do
  let (bytes, rest) ← bytes? 4 cs
  return ⟨.v4 bytes, 0, ← port? rest⟩

/-- The zone of an address of version 6, if it has one. -/
def readZone (cs : List Char) : Nat × List Char :=
  match (mark? '%' cs).bind fun cs => number? 10 0x100000000 cs.length cs with
  | some (n, rest) => (n, rest)
  | none => (0, cs)

/-- An address of version 6 in brackets, with a port. -/
def parseV6? (cs : List Char) : Option SocketAddress := do
  let cs ← mark? '[' cs
  let (groups, cs) ← readV6? cs
  let (zone, cs) := readZone cs
  let cs ← mark? ']' cs
  return ⟨.v6 groups, zone, ← port? cs⟩

/-- An address with a port. -/
def parse? (text : String) : Option SocketAddress :=
  parseV4? text.toList <|> parseV6? text.toList

/-- An address with its port, as text. -/
def render (a : SocketAddress) : String :=
  match a.ip with
  | .v4 _ => a.ip.render ++ ":" ++ toString a.port
  | .v6 _ =>
      "[" ++ a.ip.render ++ (if a.zone = 0 then "" else "%" ++ toString a.zone) ++ "]:"
        ++ toString a.port

end SocketAddress

end RobotMaze
