import RobotMaze.Robot.Run
import RobotMaze.Service.Tracks
import RobotMaze.Session.Report
import RobotMaze.Statistics.Sessions
import RobotMaze.Store.Sessions

/-! # Games as a service

    Visitors play without an account, and their games are not recorded in the
    audit log.

    * `start` opens a session, `update` takes in a report on it;
    * `recordQuick` stores a game that was reported in one call;
    * `runProgram` runs a program on an active track. -/

namespace RobotMaze.Games

open Time (Instant)
open Database (SessionFilter)

/-- Where a visitor plays from. -/
structure Client where
  ipAddress : Option String := none
  userAgent : Option String := none
  screen : Option String := none
  deriving DecidableEq, Repr

/-- The sessions of rows. -/
def readAll (rows : List SessionRow) : Op (List GameSession) :=
  Op.ofRead (rows.mapM SessionRow.read)

/-- Stores a session. -/
def store (s : GameSession) : Op GameSession := do
  let row ← Op.change (Database.insertSession s)
  Op.ofRead row.read

/-- The number of path cells of a track. -/
def cellsOf (t : Track) : Op Nat := do
  return (← Op.ofCheck t.grid).pathCount

/-- A session at its start. -/
def opened (sessionId : String) (trackId : Int) (cells : Nat) (client : Client) (now : Instant) :
    GameSession :=
  { id := 0
    sessionId
    trackId
    startTime := now
    endTime := none
    status := .inProgress
    movesCount := 0
    executionTime := none
    errorX := none
    errorY := none
    errorMessage := none
    ipAddress := client.ipAddress
    userAgent := client.userAgent
    screen := client.screen
    device := .ofUserAgent client.userAgent
    moves := none
    attempts := 1
    cellsVisited := 0
    totalCells := cells }

/-- Opens a session on a track under a new id. -/
def start (trackId : Int) (sessionId : String) (client : Client) (now : Instant) :
    Op GameSession := do
  let t ← Tracks.get trackId
  store (opened sessionId trackId (← cellsOf t) client now)

/-- A session. -/
def get (sessionId : String) : Op GameSession := do
  match ← Op.query (Database.sessionById sessionId) with
  | some row => Op.ofRead row.read
  | none => throw (.notFound .gameSession sessionId)

/-- Takes in a client's report on its session. -/
def update (sessionId : String) (report : ProgressReport) (now : Instant) : Op GameSession := do
  Op.ofCheck report.check
  let session ← get sessionId
  match report.applyTo now session with
  | .error t => throw (.forbidden t)
  | .ok session =>
      let _ ← Op.change (Database.updateSession session)
      get sessionId

/-- One page of the sessions that a filter accepts, newest first. -/
def page (f : SessionFilter) (p : PageRequest) : Op (Page GameSession) := do
  let total ← Op.query fun db => (db.sessionsAccepted f).length
  let rows ← Op.queryRead (Database.pageOfSessions f p)
  return Page.new (← readAll rows) p total

/-- The latest sessions. -/
def recent (limit : UInt32) : Op (List GameSession) := do
  readAll (← Op.query (Database.recentSessions limit))

/-- The id of a game that was reported in one call. -/
def quickId (millis : Int) : String := "web_" ++ toString millis

/-- Stores a game that was reported in one call.  It starts as long ago as it took. -/
def recordQuick (trackId : Int) (completed : Bool) (seconds moves : Int) (client : Client)
    (now : Instant) : Op GameSession := do
  let seconds := max seconds 0
  if maxQuickSeconds < seconds then
    throw (.rejected .quickTimeTooLong)
  let t ← Tracks.get trackId
  let cells ← cellsOf t
  match now.addSeconds? (-seconds) with
  | none => throw (.rejected .quickTimeOutOfRange)
  | some startTime =>
      let sessionId ← Op.query (Database.freeSessionId quickId now.toMillis)
      store { opened sessionId trackId cells client startTime with
        endTime := some now
        status := if completed then .success else .abandoned
        movesCount := max moves 0
        executionTime := some (seconds * 1000)
        cellsVisited := if completed then (cells : Int) else 0 }

/-- Runs a program on an active track. -/
def runProgram (trackId : Int) (moves : List Move) : Op Outcome := do
  let t ← Tracks.getActive trackId
  let grid ← Op.ofCheck t.grid
  Op.ofCheck (simulate grid t.start t.heading moves)

/-- All games ever played, and those that were won. -/
def totals : Op SessionTotals :=
  Op.query fun db =>
    let completed := db.countSessionsIn .success
    ⟨db.countSessions, completed, roundedToCents (percentage completed db.countSessions)⟩

end RobotMaze.Games
