import RobotMaze.Statistics.Activity
import RobotMaze.Statistics.Sessions

/-! # Overviews

    * `DashboardFigures` stand at the head of the dashboard, `PlayerFigures` are
      those that players see;
    * `SystemReport` is the whole of the statistics page;
    * `ActivitySeries` has a count for each of the latest days. -/

namespace RobotMaze

open Time (Instant)

/-- The figures at the head of the dashboard. -/
structure DashboardFigures where
  users : Nat
  tracks : Nat
  sessionsToday : Nat
  sessionsThisWeek : Nat
  successRate : Float
  auditEntriesThisWeek : Nat

namespace DashboardFigures

/-- The figures as an object. -/
def toJson (s : DashboardFigures) : Json :=
  .object [
    ("totalUsers", .count s.users),
    ("totalTracks", .count s.tracks),
    ("sessionsToday", .count s.sessionsToday),
    ("sessionsThisWeek", .count s.sessionsThisWeek),
    ("successRate", .float s.successRate),
    ("auditEntriesThisWeek", .count s.auditEntriesThisWeek)]

/-- Decodes the figures. -/
def decoder : Json.Decoder DashboardFigures :=
  (DashboardFigures.mk
    <$> .required "totalUsers" .count
    <*> .required "totalTracks" .count
    <*> .required "sessionsToday" .count
    <*> .required "sessionsThisWeek" .count
    <*> .required "successRate" .float
    <*> .required "auditEntriesThisWeek" .count : Json.Record DashboardFigures).decoder

end DashboardFigures

/-- The figures that players see. -/
structure PlayerFigures where
  sessionsThisWeek : Nat
  successful : Nat
  tracks : Nat
  successRate : Float

namespace PlayerFigures

/-- The figures as an object. -/
def toJson (s : PlayerFigures) : Json :=
  .object [
    ("totalSessionsThisWeek", .count s.sessionsThisWeek),
    ("successfulSessions", .count s.successful),
    ("availableTracks", .count s.tracks),
    ("successRate", .float s.successRate)]

/-- Decodes the figures. -/
def decoder : Json.Decoder PlayerFigures :=
  (PlayerFigures.mk
    <$> .required "totalSessionsThisWeek" .count
    <*> .required "successfulSessions" .count
    <*> .required "availableTracks" .count
    <*> .required "successRate" .float : Json.Record PlayerFigures).decoder

end PlayerFigures

/-- The whole of the statistics page. -/
structure SystemReport where
  generatedAt : Instant
  dashboard : DashboardFigures
  days : List DayFigures
  tracks : List TrackFigures
  devices : List DeviceFigures
  times : List TrackTimes
  errors : List ErrorCount
  audit : List UserActions
  overview : OverviewFigures

namespace SystemReport

/-- The report as an object. -/
def toJson (s : SystemReport) : Json :=
  .object [
    ("generatedAt", s.generatedAt.toJson),
    ("dashboardStats", s.dashboard.toJson),
    ("dailyActivity", .list DayFigures.toJson s.days),
    ("trackSuccess", .list TrackFigures.toJson s.tracks),
    ("deviceStats", .list DeviceFigures.toJson s.devices),
    ("timeStats", .list TrackTimes.toJson s.times),
    ("errorStats", .list ErrorCount.toJson s.errors),
    ("auditStats", .list UserActions.toJson s.audit),
    ("overviewStats", s.overview.toJson)]

/-- Decodes a report. -/
def decoder : Json.Decoder SystemReport :=
  (SystemReport.mk
    <$> .required "generatedAt" Instant.decoder
    <*> .required "dashboardStats" DashboardFigures.decoder
    <*> .required "dailyActivity" (.list DayFigures.decoder)
    <*> .required "trackSuccess" (.list TrackFigures.decoder)
    <*> .required "deviceStats" (.list DeviceFigures.decoder)
    <*> .required "timeStats" (.list TrackTimes.decoder)
    <*> .required "errorStats" (.list ErrorCount.decoder)
    <*> .required "auditStats" (.list UserActions.decoder)
    <*> .required "overviewStats" OverviewFigures.decoder : Json.Record SystemReport).decoder

end SystemReport

/-- Counts for each of the latest days. -/
structure ActivitySeries where
  labels : List String
  audit : List Nat
  games : List Nat
  period : String
  deriving DecidableEq, Repr

namespace ActivitySeries

/-- The series as an object. -/
def toJson (s : ActivitySeries) : Json :=
  .object [
    ("labels", .list .string s.labels),
    ("auditActivity", .list .count s.audit),
    ("gameActivity", .list .count s.games),
    ("period", .string s.period)]

/-- Decodes a series. -/
def decoder : Json.Decoder ActivitySeries :=
  (ActivitySeries.mk
    <$> .required "labels" (.list .string)
    <*> .required "auditActivity" (.list .count)
    <*> .required "gameActivity" (.list .count)
    <*> .required "period" .string : Json.Record ActivitySeries).decoder

end ActivitySeries

end RobotMaze
