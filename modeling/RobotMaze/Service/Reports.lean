import RobotMaze.Service.Games
import RobotMaze.Service.Users
import RobotMaze.Statistics.Sessions
import RobotMaze.Statistics.Complete
import RobotMaze.Statistics.Overview

/-! # Reports as a service

    Figures over sessions, tracks, users and the audit log.  Days and hours are
    those of the stored times, in UTC.

    * `dashboard`, `report`, `complete`, … — one function for each report;
    * `activity` — counts for each of the latest days, days without any
      included. -/

namespace RobotMaze.Reports

open Time (Instant)

/-- The number of days that recent figures look back. -/
def recentDays : Nat := 30

/-- The greatest number of days that can be asked for. -/
def maxDays : UInt32 := 365

/-- The number of errors that are listed. -/
def topErrors : Nat := 10

/-- A number of days held within its bounds. -/
def heldDays (days : UInt32) : UInt32 := max 1 (min days maxDays)

/-- The same time of day so many days ago. -/
def daysAgo (now : Instant) (days : Nat) : Instant := now.addDays (-(days : Int))

/-- Whether a session was won. -/
def isSuccess (r : SessionRow) : Bool := r.status == .success

/-- Whether a session was lost. -/
def isFailed (r : SessionRow) : Bool := r.status == .failed

/-- The rows of each key, in the order of the keys. -/
def groups {ρ : Type} (key : ρ → String) (rows : List ρ) : List (String × List ρ) :=
  ((Database.tally (rows.map key)).map Prod.fst).map fun k =>
    (k, rows.filter fun r => key r == k)

/-- The tracks that have sessions among the given ones, with those sessions. -/
def sessionsByTrack (rows : List SessionRow) (db : Database) :
    List (TrackRow × List SessionRow) :=
  (db.tracks.rows.map fun t => (t, rows.filter fun r => r.trackId == t.id)).filter
    fun group => !group.2.isEmpty

/-- Lists in falling order of a count; what has one count keeps its order. -/
def byCount {α : Type} (count : α → Nat) (items : List α) : List α :=
  items.mergeSort fun a b => count b ≤ count a

/-- The share of sessions that were won, of all sessions, with two places. -/
def successRate (db : Database) : Float :=
  roundedToCents (percentage (db.countSessionsIn .success) db.countSessions)

/-- The figures at the head of the dashboard. -/
def dashboard (now : Instant) : Op DashboardFigures :=
  Op.query fun db =>
    let weekAgo := daysAgo now 7
    { users := db.countActiveUsers
      tracks := db.countActiveTracks
      sessionsToday := (db.sessionsSince now.midnight).length
      sessionsThisWeek := (db.sessionsSince weekAgo).length
      successRate := successRate db
      auditEntriesThisWeek := (db.auditBetween weekAgo now).length }

/-- The sessions of each of the latest days, days without any left out. -/
def days (count : UInt32) (now : Instant) : Op (List DayFigures) :=
  Op.query fun db =>
    let rows := db.sessionsSince (daysAgo now (heldDays count).toNat)
    (groups (fun r => Database.storedDay r.startTime) rows).map fun (day, rows) =>
      DayFigures.new day rows.length (rows.countP isSuccess) (rows.countP isFailed)

/-- The recent sessions on each track, the busiest track first. -/
def tracks (now : Instant) : Op (List TrackFigures) :=
  Op.query fun db =>
    let rows := db.sessionsSince (daysAgo now recentDays)
    byCount TrackFigures.total ((sessionsByTrack rows db).map fun (t, rows) =>
      TrackFigures.new t.id t.name rows.length (rows.countP isSuccess)
        (roundedToCents (average (rows.map SessionRow.movesCount))))

/-- The recent sessions on each class of device, the busiest class first. -/
def devices (now : Instant) : Op (List DeviceFigures) :=
  Op.query fun db =>
    let rows := db.sessionsSince (daysAgo now recentDays)
    byCount DeviceFigures.total ((groups SessionRow.device rows).map fun (device, rows) =>
      DeviceFigures.new device rows.length (rows.countP isSuccess))

/-- How long recent successful sessions took on each track, the fastest track first. -/
def times (now : Instant) : Op (List TrackTimes) :=
  Op.query fun db =>
    let rows := (db.sessionsSince (daysAgo now recentDays)).filter fun r =>
      isSuccess r && r.executionTime.isSome
    let timed := (sessionsByTrack rows db).map fun (t, rows) =>
      (average (rows.filterMap SessionRow.executionTime), t, rows)
    (timed.mergeSort fun a b => a.1 ≤ b.1).map fun (millis, t, rows) =>
      ⟨t.name, Decimal.toInt millis, roundedToCents (average (rows.map SessionRow.movesCount)),
        rows.length⟩

/-- The most frequent recent errors. -/
def errors (now : Instant) : Op (List ErrorCount) :=
  Op.query fun db =>
    let rows := (db.sessionsSince (daysAgo now recentDays)).filter isFailed
    let messages := (rows.filterMap SessionRow.errorMessage).filter fun m => !m.isEmpty
    (byCount ErrorCount.frequency ((Database.tally messages).map fun (message, n) =>
      ⟨message, n⟩)).take topErrors

/-- The recent actions of each user. -/
def userActions (now : Instant) : Op (List UserActions) :=
  AuditLog.byUser (daysAgo now recentDays) now

/-- Totals and averages over the recent sessions. -/
def overview (now : Instant) : Op OverviewFigures :=
  Op.query fun db =>
    let rows := db.sessionsSince (daysAgo now recentDays)
    OverviewFigures.new rows.length (rows.countP isSuccess) (rows.countP isFailed)
      (roundedToCents (average (rows.map SessionRow.movesCount)))
      (Decimal.toInt (average (rows.filterMap SessionRow.executionTime)))

/-- The whole of the statistics page. -/
def report (now : Instant) : Op SystemReport := do
  return {
    generatedAt := now
    dashboard := ← dashboard now
    days := ← days (UInt32.ofNat recentDays) now
    tracks := ← tracks now
    devices := ← devices now
    times := ← times now
    errors := ← errors now
    audit := ← userActions now
    overview := ← overview now }

/-- The figures that players see. -/
def players (now : Instant) : Op PlayerFigures :=
  Op.query fun db =>
    { sessionsThisWeek := (db.sessionsSince (daysAgo now 7)).length
      successful := db.countSessionsIn .success
      tracks := db.countActiveTracks
      successRate := successRate db }

/-- The figures of the audit log. -/
def audit (now : Instant) : Op AuditFigures := do
  return {
    today := ← AuditLog.countBetween now.midnight now
    activeUsers := ← AuditLog.usersSince (daysAgo now 1)
    total := ← AuditLog.count
    latest := (← AuditLog.latest).map AuditEntry.timestamp }

/-- The hour of a stored time; what is no number is zero. -/
def storedHour (time : String) : Nat :=
  ((((time.toList.drop 11).take 2).takeWhile Char.isDigit).foldl
    fun n c => n * 10 + (c.toNat - 48)) 0

/-- The number of sessions that started in each hour of the day. -/
def byHour (rows : List SessionRow) : List HourCount :=
  let hours := rows.map fun r => storedHour r.startTime
  (Keyed.ofList (hours.map fun h => (h, hours.count h))).map fun (h, n) => ⟨UInt32.ofNat h, n⟩

/-- All figures about games. -/
def complete (count : UInt32) (now : Instant) : Op CompleteFigures :=
  Op.query fun db =>
    let since := daysAgo now.midnight (heldDays count).toNat
    let rows := db.sessions.rows
    let completed := db.countSessionsIn .success
    let times := fun rows : List SessionRow =>
      average ((rows.filter isSuccess).filterMap SessionRow.executionTime)
    let days := Database.tally ((db.sessionsSince since).map fun r =>
      Database.storedDay r.startTime)
    let tracks := (sessionsByTrack rows db).map fun (t, rows) =>
      let completed := rows.countP isSuccess
      TrackGames.mk t.name rows.length completed
        (roundedToCents (percentage completed rows.length))
        (roundedToCents (times rows / 1000.0))
    { totalGames := rows.length
      completedGames := completed
      activeUsers := db.countActiveUsers
      averageMinutes := Decimal.toInt (times rows / 60000.0)
      days := days.map fun (day, n) => ⟨day, n⟩
      split := ⟨completed, rows.length - completed⟩
      tracks := byCount TrackGames.total tracks
      hours := byHour (db.sessionsSince (daysAgo now 7)) }

/-- The label of a day: its weekday and its day of the month. -/
def dayLabel (dayNumber : Int) : String :=
  Time.weekdayName dayNumber ++ " " ++ toString (Time.Date.ofDayNumber dayNumber).day

/-- Counts for each of the latest days, today included. -/
def activity (count : UInt32) (now : Instant) : Op ActivitySeries :=
  Op.query fun db =>
    let length := (heldDays count).toNat
    let first := now.dayNumber - ((length : Int) - 1)
    let since := Instant.ofDayNumber first
    let audit := db.auditByDay since now
    let sessions := (db.sessionsSince since).filter fun r => r.startTime ≤ now.stamp
    let games := Database.tally (sessions.map fun r => Database.storedDay r.startTime)
    let numbers := (List.range length).map fun (i : Nat) => first + i
    let countOn := fun (counts : List (String × Nat)) (n : Int) =>
      (counts.lookup (Time.Date.ofDayNumber n).render).getD 0
    { labels := numbers.map dayLabel
      audit := numbers.map (countOn audit)
      games := numbers.map (countOn games)
      period := toString length ++ " days" }

end RobotMaze.Reports
