import RobotMaze.Decimal
import RobotMaze.Json.Decoder
import RobotMaze.Time.Instant
import RobotMaze.Time.Reader

/-! # Written time — RFC 3339 in UTC

    * `Instant.render` — with as few places of the second as hold the value: none,
      three, six or nine;
    * `Instant.stamp` — always with three places, finer parts cut off; this is
      the form in which the store keeps a time;
    * `Date.render` — the date alone;
    * `Instant.toJson`, `Instant.decoder` — the JSON form, which is written in full
      and read loosely.

    A year outside 0–9999 has a sign. -/

namespace RobotMaze.Time

open RobotMaze.Decimal (padded)

/-- A year with four digits; outside 0–9999 with a sign as well. -/
def yearChars (year : Int) : List Char :=
  if 0 ≤ year ∧ year ≤ 9999 then padded 4 year.toNat
  else (if year < 0 then '-' else '+') :: padded 4 year.natAbs

/-- A date as year, month and day. -/
def Date.chars (d : Date) : List Char :=
  yearChars d.year ++ '-' :: (padded 2 d.month ++ '-' :: padded 2 d.day)

/-- A date as text. -/
def Date.render (d : Date) : String := String.ofList d.chars

namespace Instant

/-- Hour, minute and second; a leap second is written as second 60 of its minute. -/
def clockChars (t : Instant) : List Char :=
  let s := t.secondOfDay
  let leap := if nanosPerSecond ≤ t.nano then 1 else 0
  padded 2 (s / 3600) ++ ':' :: (padded 2 (s / 60 % 60) ++ ':' :: padded 2 (s % 60 + leap))

/-- Date and time of day up to the whole second. -/
def secondChars (t : Instant) : List Char :=
  t.date.chars ++ 'T' :: t.clockChars

/-- The places of the second, as few groups of three as hold the value. -/
def fractionChars (t : Instant) : List Char :=
  let nano := t.nano % nanosPerSecond
  if nano = 0 then []
  else if nano % 1000000 = 0 then '.' :: padded 3 (nano / 1000000)
  else if nano % 1000 = 0 then '.' :: padded 6 (nano / 1000)
  else '.' :: padded 9 nano

/-- An instant as text that holds all of it. -/
def render (t : Instant) : String :=
  String.ofList (t.secondChars ++ t.fractionChars ++ ['Z'])

/-- An instant as people read it, up to the whole second. -/
def display (t : Instant) : String := String.ofList (t.date.chars ++ ' ' :: t.clockChars)

/-- An instant as text with milliseconds. -/
def stamp (t : Instant) : String :=
  String.ofList
    (t.secondChars ++ '.' :: padded 3 (t.nano % nanosPerSecond / 1000000) ++ ['Z'])

/-! ## JSON -/

/-- A time as a text. -/
def toJson (t : Instant) : Json := .string t.render

/-- Decodes a time from a loosely written text. -/
def decoder : Json.Decoder Instant := fun r => do
  let s ← Json.Decoder.string r
  match ofLoose? s with
  | some t => return t
  | none => throw .mismatch

/-- Decodes an export date, which may lack an offset. -/
def exportDecoder : Json.Decoder Instant := fun r => do
  let s ← Json.Decoder.string r
  match ofExportDate? s with
  | some t => return t
  | none => throw .mismatch

end Instant

end RobotMaze.Time
