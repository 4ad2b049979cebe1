import RobotMaze.Decimal
import RobotMaze.Json.Decoder
import RobotMaze.Text.Split

/-! # Averages, and figures of game sessions

    * `average?`, `percentage` — of whole numbers;
    * `DayFigures`, `TrackFigures`, … — the lines of the statistics. -/

/-! ## Averages and shares of whole numbers

    A sum is exact as long as it fits 64 bits.  From the first number on that
    makes it overflow, it is a floating-point number with a running correction
    for what each addition rounds away.

    * `average?` is the average; there is none of no numbers;
    * `percentage` is a part of a whole in percent, zero where there is nothing
      to take a part of;
    * `roundedToCents` rounds to two places. -/

namespace RobotMaze

/-- A running floating-point sum and what was rounded away from it. -/
structure CompensatedSum where
  sum : Float
  lost : Float

namespace CompensatedSum

/-- Adds a floating-point number. -/
def add (s : CompensatedSum) (x : Float) : CompensatedSum :=
  let t := s.sum + x
  if x.abs < s.sum.abs then ⟨t, s.lost + ((s.sum - t) + x)⟩
  else ⟨t, s.lost + ((x - t) + s.sum)⟩

/-- The magnitude from which on a whole number is split in two. -/
def splitLimit : Int := 4503599627370496

/-- The lower part of a large whole number. -/
def lowPart (n : Int) : Int := Int.tmod n 16384

/-- Whether a whole number is too large to be added in one piece. -/
def isLarge (n : Int) : Bool := n ≤ -splitLimit || splitLimit ≤ n

/-- Starts from a whole number. -/
def ofInt (n : Int) : CompensatedSum :=
  if isLarge n then ⟨Decimal.ofInt (n - lowPart n), Decimal.ofInt (lowPart n)⟩
  else ⟨Decimal.ofInt n, 0.0⟩

/-- Adds a whole number. -/
def addInt (s : CompensatedSum) (n : Int) : CompensatedSum :=
  if isLarge n then (s.add (Decimal.ofInt (n - lowPart n))).add (Decimal.ofInt (lowPart n))
  else s.add (Decimal.ofInt n)

/-- The sum with its correction. -/
def total (s : CompensatedSum) : Float := s.sum + s.lost

end CompensatedSum

/-- Whether a whole number fits 64 bits. -/
def fitsInt64 (n : Int) : Bool := -0x8000000000000000 ≤ n && n < 0x8000000000000000

/-- The sum of whole numbers after those summed up exactly so far. -/
def floatSum (exact : Int) : List Int → Float
  | [] => Decimal.ofInt exact
  | n :: rest =>
      if fitsInt64 (exact + n) then floatSum (exact + n) rest
      else ((n :: rest).foldl CompensatedSum.addInt (CompensatedSum.ofInt exact)).total

/-- The average of whole numbers of 64 bits. -/
def average? (ns : List Int) : Option Float :=
  match ns with
  | [] => none
  | _ => some (floatSum 0 ns / Decimal.ofCount ns.length)

/-- The average of whole numbers; zero of none. -/
def average (ns : List Int) : Float := (average? ns).getD 0.0

/-! ## Shares -/

/-- A part of a whole in percent; zero when the whole is zero. -/
def percentage (part whole : Nat) : Float :=
  if whole = 0 then 0.0 else Decimal.ofCount part / Decimal.ofCount whole * 100.0

/-- A number rounded to two places. -/
def roundedToCents (x : Float) : Float := (x * 100.0).round / 100.0

/-! ## Figures of game sessions — by day, by track, by device

    Each structure holds one line of a statistic: how many sessions there were,
    and which share of them was won.

    * `new` makes a line from its counts, so that its share fits them;
    * `dailyCsv` writes the daily figures as a table. -/

/-- The sessions of one day. -/
structure DayFigures where
  date : String
  total : Nat
  successful : Nat
  failed : Nat
  successRate : Float

namespace DayFigures

/-- The figures of a day from its counts. -/
def new (date : String) (total successful failed : Nat) : DayFigures :=
  ⟨date, total, successful, failed, percentage successful total⟩

/-- The figures as an object. -/
def toJson (s : DayFigures) : Json :=
  .object [
    ("date", .string s.date),
    ("totalSessions", .count s.total),
    ("successfulSessions", .count s.successful),
    ("failedSessions", .count s.failed),
    ("successRate", .float s.successRate)]

/-- Decodes the figures. -/
def decoder : Json.Decoder DayFigures :=
  (DayFigures.mk
    <$> .required "date" .string
    <*> .required "totalSessions" .count
    <*> .required "successfulSessions" .count
    <*> .required "failedSessions" .count
    <*> .required "successRate" .float : Json.Record DayFigures).decoder

/-- The figures as a line of a table; the rate has two places. -/
def csvLine (s : DayFigures) : String :=
  Text.join "," [s.date, toString s.total, toString s.successful, toString s.failed,
    Decimal.fixed 2 s.successRate] ++ "\n"

end DayFigures

/-- The heading of the table of daily figures. -/
def dailyCsvHeading : String :=
  "date,totalSessions,successfulSessions,failedSessions,successRate\n"

/-- The daily figures as a table with commas between its columns. -/
def dailyCsv (days : List DayFigures) : String :=
  dailyCsvHeading ++ String.join (days.map DayFigures.csvLine)

/-- The sessions on one track. -/
structure TrackFigures where
  trackId : Int
  trackName : String
  total : Nat
  successful : Nat
  averageMoves : Float
  successRate : Float

namespace TrackFigures

/-- The figures of a track from its counts. -/
def new (trackId : Int) (trackName : String) (total successful : Nat) (averageMoves : Float) :
    TrackFigures :=
  ⟨trackId, trackName, total, successful, averageMoves, percentage successful total⟩

/-- The figures as an object. -/
def toJson (s : TrackFigures) : Json :=
  .object [
    ("trackId", .whole s.trackId),
    ("trackName", .string s.trackName),
    ("totalSessions", .count s.total),
    ("successfulSessions", .count s.successful),
    ("avgMoves", .float s.averageMoves),
    ("successRate", .float s.successRate)]

/-- Decodes the figures. -/
def decoder : Json.Decoder TrackFigures :=
  (TrackFigures.mk
    <$> .required "trackId" .int64
    <*> .required "trackName" .string
    <*> .required "totalSessions" .count
    <*> .required "successfulSessions" .count
    <*> .required "avgMoves" .float
    <*> .required "successRate" .float : Json.Record TrackFigures).decoder

end TrackFigures

/-- The sessions on one class of device. -/
structure DeviceFigures where
  device : String
  total : Nat
  successful : Nat
  successRate : Float

namespace DeviceFigures

/-- The figures of a class of device from its counts. -/
def new (device : String) (total successful : Nat) : DeviceFigures :=
  ⟨device, total, successful, percentage successful total⟩

/-- The figures as an object. -/
def toJson (s : DeviceFigures) : Json :=
  .object [
    ("deviceType", .string s.device),
    ("totalSessions", .count s.total),
    ("successfulSessions", .count s.successful),
    ("successRate", .float s.successRate)]

/-- Decodes the figures. -/
def decoder : Json.Decoder DeviceFigures :=
  (DeviceFigures.mk
    <$> .required "deviceType" .string
    <*> .required "totalSessions" .count
    <*> .required "successfulSessions" .count
    <*> .required "successRate" .float : Json.Record DeviceFigures).decoder

end DeviceFigures

/-- How long the successful sessions on one track took. -/
structure TrackTimes where
  trackName : String
  averageMillis : Int
  averageMoves : Float
  total : Nat

namespace TrackTimes

/-- The figures as an object. -/
def toJson (s : TrackTimes) : Json :=
  .object [
    ("trackName", .string s.trackName),
    ("avgExecutionTimeMs", .whole s.averageMillis),
    ("avgMoves", .float s.averageMoves),
    ("totalSessions", .count s.total)]

/-- Decodes the figures. -/
def decoder : Json.Decoder TrackTimes :=
  (TrackTimes.mk
    <$> .required "trackName" .string
    <*> .required "avgExecutionTimeMs" .int64
    <*> .required "avgMoves" .float
    <*> .required "totalSessions" .count : Json.Record TrackTimes).decoder

end TrackTimes

/-- How often an error occurred. -/
structure ErrorCount where
  message : String
  frequency : Nat
  deriving DecidableEq, Repr

namespace ErrorCount

/-- The count as an object. -/
def toJson (s : ErrorCount) : Json :=
  .object [("errorMessage", .string s.message), ("frequency", .count s.frequency)]

/-- Decodes a count. -/
def decoder : Json.Decoder ErrorCount :=
  (ErrorCount.mk
    <$> .required "errorMessage" .string
    <*> .required "frequency" .count : Json.Record ErrorCount).decoder

end ErrorCount

/-- Totals and averages over all tracks. -/
structure OverviewFigures where
  total : Nat
  successful : Nat
  failed : Nat
  averageMoves : Float
  averageMillis : Int
  successRate : Float

namespace OverviewFigures

/-- The figures from counts and averages. -/
def new (total successful failed : Nat) (averageMoves : Float) (averageMillis : Int) :
    OverviewFigures :=
  ⟨total, successful, failed, averageMoves, averageMillis, percentage successful total⟩

/-- The figures as an object. -/
def toJson (s : OverviewFigures) : Json :=
  .object [
    ("totalSessions", .count s.total),
    ("successfulSessions", .count s.successful),
    ("failedSessions", .count s.failed),
    ("avgMoves", .float s.averageMoves),
    ("avgExecutionTimeMs", .whole s.averageMillis),
    ("successRate", .float s.successRate)]

/-- Decodes the figures. -/
def decoder : Json.Decoder OverviewFigures :=
  (OverviewFigures.mk
    <$> .required "totalSessions" .count
    <*> .required "successfulSessions" .count
    <*> .required "failedSessions" .count
    <*> .required "avgMoves" .float
    <*> .required "avgExecutionTimeMs" .int64
    <*> .required "successRate" .float : Json.Record OverviewFigures).decoder

end OverviewFigures

/-- All games ever played, and those that were won. -/
structure SessionTotals where
  total : Nat
  completed : Nat
  completionRate : Float

namespace SessionTotals

/-- The totals as an object. -/
def toJson (s : SessionTotals) : Json :=
  .object [
    ("totalSessions", .count s.total),
    ("completedSessions", .count s.completed),
    ("completionRate", .float s.completionRate)]

/-- Decodes the totals. -/
def decoder : Json.Decoder SessionTotals :=
  (SessionTotals.mk
    <$> .required "totalSessions" .count
    <*> .required "completedSessions" .count
    <*> .required "completionRate" .float : Json.Record SessionTotals).decoder

end SessionTotals

end RobotMaze
