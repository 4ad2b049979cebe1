import RobotMaze.Json.Decoder

/-! # Figures of all games

    `CompleteFigures` looks at all games ever played: by day, by track and by the
    hour of the day. -/

namespace RobotMaze

/-- The number of games of one day. -/
structure DayCount where
  date : String
  games : Nat
  deriving DecidableEq, Repr

namespace DayCount

/-- The count as an object. -/
def toJson (s : DayCount) : Json :=
  .object [("date", .string s.date), ("games", .count s.games)]

/-- Decodes a count. -/
def decoder : Json.Decoder DayCount :=
  (DayCount.mk
    <$> .required "date" .string
    <*> .required "games" .count : Json.Record DayCount).decoder

end DayCount

/-- The number of games that began in one hour of the day. -/
structure HourCount where
  hour : UInt32
  games : Nat
  deriving DecidableEq, Repr

namespace HourCount

/-- The count as an object. -/
def toJson (s : HourCount) : Json :=
  .object [("hour", .count s.hour.toNat), ("games", .count s.games)]

/-- Decodes a count. -/
def decoder : Json.Decoder HourCount :=
  (HourCount.mk
    <$> .required "hour" .uint32
    <*> .required "games" .count : Json.Record HourCount).decoder

end HourCount

/-- The games that were won and those that were not. -/
structure StatusSplit where
  completed : Nat
  inProgress : Nat
  deriving DecidableEq, Repr

namespace StatusSplit

/-- The split as an object. -/
def toJson (s : StatusSplit) : Json :=
  .object [("completed", .count s.completed), ("inProgress", .count s.inProgress)]

/-- Decodes a split. -/
def decoder : Json.Decoder StatusSplit :=
  (StatusSplit.mk
    <$> .required "completed" .count
    <*> .required "inProgress" .count : Json.Record StatusSplit).decoder

end StatusSplit

/-- The games on one track. -/
structure TrackGames where
  trackName : String
  total : Nat
  completed : Nat
  successRate : Float
  /-- In seconds, over the games that were won. -/
  averageSeconds : Float

namespace TrackGames

/-- The figures as an object. -/
def toJson (s : TrackGames) : Json :=
  .object [
    ("trackName", .string s.trackName),
    ("totalGames", .count s.total),
    ("completedGames", .count s.completed),
    ("successRate", .float s.successRate),
    ("averageTime", .float s.averageSeconds)]

/-- Decodes the figures. -/
def decoder : Json.Decoder TrackGames :=
  (TrackGames.mk
    <$> .required "trackName" .string
    <*> .required "totalGames" .count
    <*> .required "completedGames" .count
    <*> .required "successRate" .float
    <*> .required "averageTime" .float : Json.Record TrackGames).decoder

end TrackGames

/-- All figures about games. -/
structure CompleteFigures where
  totalGames : Nat
  completedGames : Nat
  activeUsers : Nat
  /-- In whole minutes. -/
  averageMinutes : Int
  days : List DayCount
  split : StatusSplit
  tracks : List TrackGames
  hours : List HourCount

namespace CompleteFigures

/-- The figures as an object. -/
def toJson (s : CompleteFigures) : Json :=
  .object [
    ("totalGames", .count s.totalGames),
    ("completedGames", .count s.completedGames),
    ("activeUsers", .count s.activeUsers),
    ("averageTime", .whole s.averageMinutes),
    ("dailyActivity", .list DayCount.toJson s.days),
    ("gameStatus", s.split.toJson),
    ("trackStats", .list TrackGames.toJson s.tracks),
    ("hourlyActivity", .list HourCount.toJson s.hours)]

/-- Decodes the figures. -/
def decoder : Json.Decoder CompleteFigures :=
  (CompleteFigures.mk
    <$> .required "totalGames" .count
    <*> .required "completedGames" .count
    <*> .required "activeUsers" .count
    <*> .required "averageTime" .int64
    <*> .required "dailyActivity" (.list DayCount.decoder)
    <*> .required "gameStatus" StatusSplit.decoder
    <*> .required "trackStats" (.list TrackGames.decoder)
    <*> .required "hourlyActivity" (.list HourCount.decoder)
    : Json.Record CompleteFigures).decoder

end CompleteFigures

end RobotMaze
