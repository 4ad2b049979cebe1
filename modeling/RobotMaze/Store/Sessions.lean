import RobotMaze.Store.Database

/-! # The table of game sessions

    The id by which a client knows its session is unique, and a session belongs
    to a track of the store. -/

namespace RobotMaze.Database

open Time (Instant)

/-- A row must not share its id with another one and must belong to a track. -/
def sessionIsAcceptable (db : Database) (r : SessionRow) (others : List SessionRow) : Bool :=
  (!others.any fun o => o.sessionId == r.sessionId) && (db.tracks.find? r.trackId).isSome

/-- Adds a session. -/
def insertSession (s : GameSession) (db : Database) : Except Failure (SessionRow × Database) := do
  let (row, sessions) ← db.sessions.insert (fun id => { SessionRow.ofSession s with id })
    db.sessionIsAcceptable
  return (row, { db with sessions })

/-- Writes all fields of a session, apart from its number. -/
def updateSession (s : GameSession) (db : Database) : Except Failure (Nat × Database) :=
  match db.sessions.rows.find? fun r => r.sessionId == s.sessionId with
  | none => .ok (0, db)
  | some row => do
      let (n, sessions) ← db.sessions.modify row.id (fun _ => true)
        (fun r => { SessionRow.ofSession s with id := r.id }) db.sessionIsAcceptable
      return (n, { db with sessions })

/-- The row of a session. -/
def sessionById (sessionId : String) (db : Database) : Option SessionRow :=
  db.sessions.rows.find? fun r => r.sessionId == sessionId

/-- Which sessions a listing shows. -/
structure SessionFilter where
  status : Option SessionStatus := none
  trackId : Option Int := none
  device : Option DeviceClass := none
  since : Option Instant := none
  upTo : Option Instant := none
  deriving DecidableEq, Repr

namespace SessionFilter

/-- Whether a listing shows a session; the bounds of its start time count as milliseconds. -/
def accepts (f : SessionFilter) (r : SessionRow) : Bool :=
  allows f.status (fun s => r.status == s)
    && allows f.trackId (fun id => r.trackId == id)
    && allows f.device (fun d => r.device == Named.name d)
    && allows f.since (fun t => t.stamp ≤ r.startTime)
    && allows f.upTo (fun t => r.startTime ≤ t.stamp)

end SessionFilter

/-- The sessions that a filter accepts. -/
def sessionsAccepted (f : SessionFilter) (db : Database) : List SessionRow :=
  db.sessions.rows.filter f.accepts

/-- The sessions of a page, newest first. -/
def pageOfSessions (f : SessionFilter) (p : PageRequest) (db : Database) :
    Read (List SessionRow) :=
  pageOf p (newestFirst SessionRow.startTime (db.sessionsAccepted f))

/-- The latest sessions. -/
def recentSessions (limit : UInt32) (db : Database) : List SessionRow :=
  (newestFirst SessionRow.startTime db.sessions.rows).take limit.toNat

/-- The sessions that started at an instant or later. -/
def sessionsSince (since : Instant) (db : Database) : List SessionRow :=
  db.sessions.rows.filter fun r => since.stamp ≤ r.startTime

/-- The number of sessions. -/
def countSessions (db : Database) : Nat := db.sessions.rows.length

/-- The number of sessions in a state. -/
def countSessionsIn (status : SessionStatus) (db : Database) : Nat :=
  db.sessions.rows.countP fun r => r.status == status

/-- The smallest number from `n` on that makes an id which no session has; the number after the
    last one tried when the search gives up. -/
def freeSessionNumber (taken : List String) (makeId : Int → String) : Nat → Int → Int
  | 0, n => n
  | fuel + 1, n =>
      if taken.contains (makeId n) then freeSessionNumber taken makeId fuel (n + 1) else n

/-- The first free id from a number on.  Of more numbers than there are sessions one is free. -/
def freeSessionId (makeId : Int → String) (n : Int) (db : Database) : String :=
  let taken := db.sessions.rows.map SessionRow.sessionId
  makeId (freeSessionNumber taken makeId (taken.length + 1) n)

end RobotMaze.Database
