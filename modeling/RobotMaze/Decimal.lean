/-! # Decimals — floating-point numbers as text and back

    * `shortest`, `render` — the fewest digits that read back;
    * `fixed` — a fixed number of places;
    * `ofInt`, `toInt` — whole numbers;
    * `ofDigits?` — the number of digits that were read. -/

/-! ## Shortest decimals — the fewest digits that read back

    A number is written with the fewest decimal digits that still read back as
    the same number; among equally short ones the nearest is taken, and on a
    tie the one with an even last digit.

    * `Binary` is the exact value of a number, a whole number times a power of two;
    * `shortest` finds the digits and the exponent of the first one;
    * `render` lays them out: with a point when the number is at least 10⁻⁵ and
      below 10¹⁶, and with an exponent otherwise. -/

namespace RobotMaze.Decimal

/-! ## Exact values -/

/-- The magnitude `mantissa · 2 ^ (exponent − 1074)` of a finite number. -/
structure Binary where
  mantissa : Nat
  /-- Counted from the least power, 2 ^ −1074. -/
  exponent : Nat
  deriving DecidableEq, Repr

/-- Whether the sign bit is set; it is for `-0.0`. -/
def signBit (x : Float) : Bool := x.toBits >>> 63 == 1

/-- Whether a number is neither infinite nor a NaN. -/
def isFinite (x : Float) : Bool := (x.toBits >>> 52) % 2048 != 2047

/-- The bit above the stored ones of a mantissa, of which there are 52. -/
def hiddenBit : Nat := 0x10000000000000

/-- The magnitude of a finite number. -/
def Binary.ofFloat (x : Float) : Binary :=
  let bits := x.toBits.toNat
  let power := bits / hiddenBit % 2048
  let fraction := bits % hiddenBit
  if power = 0 then ⟨fraction, 0⟩ else ⟨hiddenBit + fraction, power - 1⟩

/-- The magnitude as a fraction of whole numbers. -/
def Binary.ratio (b : Binary) : Nat × Nat :=
  if 1074 ≤ b.exponent then (b.mantissa <<< (b.exponent - 1074), 1)
  else (b.mantissa, 1 <<< (1074 - b.exponent))

/-! ## Digits -/

/-- The decimals that read back as one number, as a multiple of one fraction `1 / scale`:
    the number itself and the two ends of its interval. -/
structure Interval where
  low : Nat
  value : Nat
  high : Nat
  scale : Nat
  /-- Whether the ends themselves read back. -/
  closed : Bool
  deriving Repr

/-- The interval of the decimals that read back as a magnitude: half the way to its neighbours. -/
def Binary.interval (b : Binary) : Interval :=
  let below := if b.mantissa = hiddenBit ∧ 0 < b.exponent then 1 else 2
  let shifted := fun n : Nat => n <<< b.exponent
  { low := shifted (4 * b.mantissa - below)
    value := shifted (4 * b.mantissa)
    high := shifted (4 * b.mantissa + 2)
    scale := 1 <<< 1076
    closed := b.mantissa % 2 == 0 }

/-- Whether the decimal `n · 10 ^ e` lies in the interval. -/
def Interval.holds (i : Interval) (n : Nat) (e : Int) : Bool :=
  let n' := n * i.scale * Nat.pow 10 e.toNat
  let low := i.low * Nat.pow 10 (-e).toNat
  let high := i.high * Nat.pow 10 (-e).toNat
  if i.closed then low ≤ n' && n' ≤ high else low < n' && n' < high

/-- The greatest `e` with `10 ^ e ≤ num / den`, searched downward from `e`. -/
def leadingExponent (num den : Nat) : Nat → Int → Int
  | 0, e => e
  | fuel + 1, e =>
      if den * Nat.pow 10 e.toNat ≤ num * Nat.pow 10 (-e).toNat then e
      else leadingExponent num den fuel (e - 1)

/-- The digits and the exponent of the first digit. -/
structure Digits where
  digits : Nat
  count : Nat
  exponent : Int
  deriving DecidableEq, Repr

/-- The better neighbour of the value among the decimals with `count` digits, if one reads
    back. -/
def Interval.withDigits (i : Interval) (exponent : Int) (count : Nat) : Option Nat :=
  let e := exponent - (count : Int) + 1
  let num := i.value * Nat.pow 10 (-e).toNat
  let den := i.scale * Nat.pow 10 e.toNat
  let below := num / den
  let above := below + 1
  let belowHolds := i.holds below e
  let aboveHolds := i.holds above e
  if belowHolds && aboveHolds then
    let toBelow := num - below * den
    let toAbove := above * den - num
    if toBelow < toAbove then some below
    else if toAbove < toBelow then some above
    else some (if below % 2 = 0 then below else above)
  else if belowHolds then some below
  else if aboveHolds then some above
  else none

/-- Tries ever longer decimals. -/
def Interval.search (i : Interval) (exponent : Int) : Nat → Nat → Digits
  | 0, count => ⟨i.value * Nat.pow 10 (-(exponent - (count : Int) + 1)).toNat
      / (i.scale * Nat.pow 10 (exponent - (count : Int) + 1).toNat), count, exponent⟩
  | fuel + 1, count =>
      match i.withDigits exponent count with
      | some n =>
          if n = Nat.pow 10 count then ⟨1, 1, exponent + 1⟩ else ⟨n, count, exponent⟩
      | none => i.search exponent fuel (count + 1)

/-- The shortest digits of a magnitude other than zero. -/
def Binary.shortest (b : Binary) : Digits :=
  let i := b.interval
  let exponent := leadingExponent i.value i.scale 700 310
  i.search exponent 17 1

/-- A whole number in decimal, filled with zeros on the left to a width. -/
def padded (width n : Nat) : List Char :=
  let digits := (toString n).toList
  List.replicate (width - digits.length) '0' ++ digits

/-- Digits with a point, or with an exponent when the number is large or small. -/
def Digits.layout (d : Digits) : List Char :=
  let ds := (toString d.digits).toList
  if -5 ≤ d.exponent ∧ d.exponent < 16 then
    if d.exponent < 0 then
      ['0', '.'] ++ List.replicate ((-d.exponent).toNat - 1) '0' ++ ds
    else
      let whole := d.exponent.toNat + 1
      if d.count ≤ whole then ds ++ List.replicate (whole - d.count) '0' ++ ['.', '0']
      else ds.take whole ++ ['.'] ++ ds.drop whole
  else
    let mark := if d.exponent < 0 then ['e', '-'] else ['e', '+']
    let tail := mark ++ (toString d.exponent.natAbs).toList
    if d.count = 1 then ds ++ tail else ds.take 1 ++ ['.'] ++ ds.drop 1 ++ tail

/-- The text of a number: always with a point or an exponent; infinities and NaN have none. -/
def render? (x : Float) : Option (List Char) :=
  if isFinite x then
    let b := Binary.ofFloat x
    let body := if b.mantissa = 0 then ['0', '.', '0'] else b.shortest.layout
    some (if signBit x then '-' :: body else body)
  else none

/-! ## Decimals with a fixed number of places

    Percentages and averages are shown with one or two places.  The exact value
    is rounded to the nearest such decimal, and a half goes to the even one. -/

/-- A quotient rounded to the nearest whole number, a half to the even one. -/
def roundHalfEven (num den : Nat) : Nat :=
  let q := num / den
  let r := num % den
  if 2 * r < den then q
  else if den < 2 * r then q + 1
  else if q % 2 = 0 then q else q + 1

/-- The text of a number with `places` digits after the point. -/
def fixed (places : Nat) (x : Float) : String :=
  let (num, den) := (Binary.ofFloat x).ratio
  let one := Nat.pow 10 places
  let units := roundHalfEven (num * one) den
  let body := (toString (units / one)).toList ++ '.' :: padded places (units % one)
  String.ofList (if signBit x then '-' :: body else body)

/-! ## Whole numbers as floating-point numbers

    * `ofCount`, `ofInt` — the nearest floating-point number;
    * `toInt` — rounded to the nearest whole number, a half away from zero, and
      held within 64 bits. -/

/-- The floating-point number nearest to a count of 64 bits. -/
def ofCount (n : Nat) : Float := (UInt64.ofNat n).toFloat

/-- The floating-point number nearest to a whole number of 64 bits. -/
def ofInt (n : Int) : Float := if 0 ≤ n then ofCount n.natAbs else -ofCount n.natAbs

/-- The nearest whole number of 64 bits. -/
def toInt (x : Float) : Int := x.round.toInt64.toInt

/-! ## Reading decimals

    The digits of a decimal are collected into one whole number of at most 64
    bits and a power of ten; digits beyond that are dropped.  The value is the
    rounded whole number times or over the rounded power, so it can differ from
    the nearest number in the last bit. -/

/-- The largest whole number that digits are collected into. -/
def maxSignificand : Nat := 0xFFFFFFFFFFFFFFFF

/-- The largest power of ten that is applied at once. -/
def maxPower : Nat := 308

/-- Whether a number is infinite. -/
def isInfinite (x : Float) : Bool := x.toBits % 0x8000000000000000 == 0x7FF0000000000000

/-- Applies a power of ten to a number, by at most 10³⁰⁸ at a time; none when the number grows
    too large. -/
def scale : Nat → Float → Int → Option Float
  | 0, x, _ => some x
  | fuel + 1, x, e =>
      if e.natAbs ≤ maxPower then
        let power := Float.ofScientific 1 false e.natAbs
        if 0 ≤ e then
          let y := x * power
          if isInfinite y then none else some y
        else some (x / power)
      else if x == 0.0 then some x
      else if 0 ≤ e then none
      else scale fuel (x / Float.ofScientific 1 false maxPower) (e + (maxPower : Int))

/-- The number with the given sign, digits and power of ten; none when it is too large. -/
def ofDigits? (negative : Bool) (significand : Nat) (exponent : Int) : Option Float :=
  match scale 4 (UInt64.ofNat significand).toFloat exponent with
  | some x => some (if negative then -x else x)
  | none => none

end RobotMaze.Decimal
