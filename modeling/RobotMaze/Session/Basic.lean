import RobotMaze.Decimal
import RobotMaze.Named
import RobotMaze.Text.LowerCase
import RobotMaze.Time.Printer

/-! # Game sessions and their states

    * `SessionStatus`, `DeviceClass` — the states of a session, and what it is
      played on;
    * `GameSession` — one play of a track. -/

/-! ## Session status and device class

    A session is in progress until it reaches one of four final states.

    * `SessionStatus.next` — the states that may follow a state;
    * `DeviceClass.ofUserAgent` — the class of a device by what its browser says
      of itself. -/

namespace RobotMaze

/-- The state of a game session. -/
inductive SessionStatus where
  | inProgress
  | success
  | failed
  | abandoned
  | error
  deriving DecidableEq, Repr

namespace SessionStatus

instance : Named SessionStatus where
  all := [.inProgress, .success, .failed, .abandoned, .error]
  name
    | .inProgress => "IN_PROGRESS"
    | .success => "SUCCESS"
    | .failed => "FAILED"
    | .abandoned => "ABANDONED"
    | .error => "ERROR"

/-- The states that may follow. -/
def next : SessionStatus → List SessionStatus
  | .inProgress => [.success, .failed, .abandoned, .error]
  | _ => []

/-- Whether a state may follow another. -/
def canBecome (s t : SessionStatus) : Bool := s.next.contains t

/-- Whether a session that reaches this state gets an end time. -/
def endsSession : SessionStatus → Bool
  | .success => true
  | .failed => true
  | _ => false

/-- Nothing follows a final state. -/
theorem next_eq_nil_iff (s : SessionStatus) : s.next = [] ↔ s ≠ .inProgress := by
  cases s <;> simp [next]

end SessionStatus

/-- A coarse class of device. -/
inductive DeviceClass where
  | mobile
  | tablet
  | desktop
  | unknown
  deriving DecidableEq, Repr

namespace DeviceClass

instance : Named DeviceClass where
  all := [.mobile, .tablet, .desktop, .unknown]
  name
    | .mobile => "MOBILE"
    | .tablet => "TABLET"
    | .desktop => "DESKTOP"
    | .unknown => "UNKNOWN"

/-- Whether a list of characters contains another as a run. -/
def hasRun (run : List Char) : List Char → Bool
  | [] => run.isEmpty
  | c :: rest => run.isPrefixOf (c :: rest) || hasRun run rest

/-- The words that mark a mobile device. -/
def mobileWords : List String := ["mobile", "android", "iphone"]

/-- The words that mark a tablet. -/
def tabletWords : List String := ["tablet", "ipad"]

/-- The class of a device; the words of a mobile device count before those of a tablet. -/
def ofUserAgent : Option String → DeviceClass
  | none => .unknown
  | some agent =>
      let text := Text.lowerChars agent.toList
      if mobileWords.any fun word => hasRun word.toList text then .mobile
      else if tabletWords.any fun word => hasRun word.toList text then .tablet
      else .desktop

end DeviceClass

/-! ## Game sessions — plays of a track by a visitor

    * `GameSession.transition` moves a session to another state, if the state it
      is in allows that;
    * `GameSession.markCompleted`, `GameSession.markFailed` — the two ends of a
      game;
    * `GameSession.durationMillis`, `GameSession.completion` — figures of a
      session. -/

open Time (Instant)

/-- One play of a track. -/
structure GameSession where
  id : Int
  sessionId : String
  trackId : Int
  startTime : Instant
  endTime : Option Instant
  status : SessionStatus
  movesCount : Int
  executionTime : Option Int
  errorX : Option Int
  errorY : Option Int
  errorMessage : Option String
  ipAddress : Option String
  userAgent : Option String
  screen : Option String
  device : DeviceClass
  moves : Option String
  attempts : Int
  cellsVisited : Int
  totalCells : Int
  deriving DecidableEq, Repr

/-- A change of state that is not allowed. -/
structure ForbiddenTransition where
  sessionId : String
  source : SessionStatus
  target : SessionStatus
  deriving DecidableEq, Repr

/-- The wording of a forbidden change from one state to another. -/
def transitionMessage (kind id source target : String) : String :=
  "Invalid state transition: " ++ kind ++ " " ++ id ++ " from " ++ source ++ " to " ++ target

/-- The wording of a forbidden change of the state of a session. -/
def ForbiddenTransition.message (f : ForbiddenTransition) : String :=
  transitionMessage "GameSession" f.sessionId (Named.name f.source) (Named.name f.target)

namespace GameSession

/-- The milliseconds from start to end, once the session has ended. -/
def durationMillis (s : GameSession) : Option Int := s.endTime.map s.startTime.millisBetween

/-- The share of the path that was visited, in percent and between 0 and 100. -/
def completion (s : GameSession) : Float :=
  if s.totalCells ≤ 0 then 0.0
  else
    let share := Decimal.ofInt s.cellsVisited / Decimal.ofInt s.totalCells * 100.0
    if share < 0.0 then 0.0 else if 100.0 < share then 100.0 else share

/-- Moves a session to a state.  The state it is in already changes nothing. -/
def transition (s : GameSession) (next : SessionStatus) (now : Instant) :
    Except ForbiddenTransition GameSession :=
  if s.status = next then .ok s
  else if s.status.canBecome next then
    .ok { s with
      status := next
      endTime := if next.endsSession then some now else s.endTime }
  else .error ⟨s.sessionId, s.status, next⟩

/-- Ends a session with success. -/
def markCompleted (s : GameSession) (now : Instant) : Except ForbiddenTransition GameSession :=
  s.transition .success now

/-- Ends a session with an error message. -/
def markFailed (s : GameSession) (message : String) (now : Instant) :
    Except ForbiddenTransition GameSession :=
  (s.transition .failed now).map fun s => { s with errorMessage := some message }

/-- A session as an object. -/
def toJson (s : GameSession) : Json :=
  .object [
    ("id", .whole s.id),
    ("sessionId", .string s.sessionId),
    ("trackId", .whole s.trackId),
    ("startTime", s.startTime.toJson),
    ("endTime", .optional Instant.toJson s.endTime),
    ("status", Named.toJson s.status),
    ("movesCount", .whole s.movesCount),
    ("executionTimeMs", .optional .whole s.executionTime),
    ("errorPositionX", .optional .whole s.errorX),
    ("errorPositionY", .optional .whole s.errorY),
    ("errorMessage", .optional .string s.errorMessage),
    ("ipAddress", .optional .string s.ipAddress),
    ("userAgent", .optional .string s.userAgent),
    ("screenResolution", .optional .string s.screen),
    ("deviceType", Named.toJson s.device),
    ("movesSequence", .optional .string s.moves),
    ("attemptsCount", .whole s.attempts),
    ("cellsVisited", .whole s.cellsVisited),
    ("totalCellsRequired", .whole s.totalCells)]

/-- Decodes a session. -/
def decoder : Json.Decoder GameSession :=
  (GameSession.mk
    <$> .required "id" .int64
    <*> .required "sessionId" .string
    <*> .required "trackId" .int64
    <*> .required "startTime" Instant.decoder
    <*> .optional "endTime" Instant.decoder
    <*> .required "status" Named.decoder
    <*> .required "movesCount" .int64
    <*> .optional "executionTimeMs" .int64
    <*> .optional "errorPositionX" .int32
    <*> .optional "errorPositionY" .int32
    <*> .optional "errorMessage" .string
    <*> .optional "ipAddress" .string
    <*> .optional "userAgent" .string
    <*> .optional "screenResolution" .string
    <*> .required "deviceType" Named.decoder
    <*> .optional "movesSequence" .string
    <*> .required "attemptsCount" .int64
    <*> .required "cellsVisited" .int64
    <*> .required "totalCellsRequired" .int64 : Json.Record GameSession).decoder

end GameSession

end RobotMaze
