import RobotMaze.Audit.Basic
import RobotMaze.Failure
import RobotMaze.Login.Basic
import RobotMaze.Session.Basic
import RobotMaze.Track.Change
import RobotMaze.User.Basic

/-! # Rows — what the store holds

    A row keeps times as text, with milliseconds, and flags as numbers.  Reading
    a row can fail where a value does not read as what its column is for; an
    empty optional text reads as missing.

    * `TrackRow.read`, `UserRow.read`, `SessionRow.read`, `AuditRow.read` — the
      entity of a row. -/

namespace RobotMaze

open Time (Instant)

/-- The outcome of reading a stored value. -/
abbrev Read := Except Failure

/-- A stored time. -/
def readTime (text : String) : Read Instant :=
  match Instant.ofStored? text with
  | some t => .ok t
  | none => .error (.unreadable (.time text))

/-- An optional text; an empty one is missing. -/
def readText (text : Option String) : Option String := text.filter fun s => !s.isEmpty

/-- An optional stored time. -/
def readTimeOpt (text : Option String) : Read (Option Instant) := (readText text).mapM readTime

/-- A stored name. -/
def readName {α : Type} [Named α] (text : String) : Read α :=
  match Named.ofName? text with
  | some a => .ok a
  | none => .error (.unreadable (.name text))

/-- A number of 32 bits in a column. -/
def readInt32 (column : Nat) (n : Int) : Read Int :=
  if -0x80000000 ≤ n ∧ n < 0x80000000 then .ok n else .error (.unreadable (.outOfRange column n))

/-- A flag as a number. -/
def flag (b : Bool) : Int := if b then 1 else 0

/-- A stored track. -/
structure TrackRow where
  id : Int
  name : String
  gridConfig : String
  startX : Int
  startY : Int
  heading : Heading
  createdAt : String
  updatedAt : String
  createdBy : Option String
  isActive : Int
  difficulty : Int
  description : Option String
  deriving DecidableEq, Repr

/-- The track of a row. -/
def TrackRow.read (r : TrackRow) : Read Track := do
  return {
    id := r.id
    name := r.name
    gridConfig := r.gridConfig
    startX := ← readInt32 3 r.startX
    startY := ← readInt32 4 r.startY
    heading := r.heading
    createdAt := ← readTime r.createdAt
    updatedAt := ← readTime r.updatedAt
    createdBy := readText r.createdBy
    isActive := r.isActive != 0
    difficulty := ← readInt32 10 r.difficulty
    description := readText r.description }

/-- A stored account. -/
structure UserRow where
  id : Int
  username : String
  passwordHash : PasswordHash
  email : String
  fullName : String
  role : Role
  isActive : Int
  createdAt : String
  lastLogin : Option String
  createdBy : Option String
  deriving DecidableEq, Repr

/-- The account of a row. -/
def UserRow.read (r : UserRow) : Read User := do
  return {
    id := r.id
    username := r.username
    passwordHash := r.passwordHash
    email := r.email
    fullName := r.fullName
    role := r.role
    isActive := r.isActive != 0
    createdAt := ← readTime r.createdAt
    lastLogin := ← readTimeOpt r.lastLogin
    createdBy := readText r.createdBy }

/-- A stored game session. -/
structure SessionRow where
  id : Int
  sessionId : String
  trackId : Int
  startTime : String
  endTime : Option String
  status : SessionStatus
  movesCount : Int
  executionTime : Option Int
  errorX : Option Int
  errorY : Option Int
  errorMessage : Option String
  ipAddress : Option String
  userAgent : Option String
  screen : Option String
  device : String
  moves : Option String
  attempts : Int
  cellsVisited : Int
  totalCells : Int
  deriving DecidableEq, Repr

namespace SessionRow

/-- The session of a row. -/
def read (r : SessionRow) : Read GameSession := do
  return {
    id := r.id
    sessionId := r.sessionId
    trackId := r.trackId
    startTime := ← readTime r.startTime
    endTime := ← readTimeOpt r.endTime
    status := r.status
    movesCount := r.movesCount
    executionTime := r.executionTime
    errorX := ← r.errorX.mapM (readInt32 8)
    errorY := ← r.errorY.mapM (readInt32 9)
    errorMessage := readText r.errorMessage
    ipAddress := readText r.ipAddress
    userAgent := readText r.userAgent
    screen := readText r.screen
    device := ← readName r.device
    moves := readText r.moves
    attempts := r.attempts
    cellsVisited := r.cellsVisited
    totalCells := r.totalCells }

/-- The row of a session. -/
def ofSession (s : GameSession) : SessionRow :=
  { id := s.id
    sessionId := s.sessionId
    trackId := s.trackId
    startTime := s.startTime.stamp
    endTime := s.endTime.map Instant.stamp
    status := s.status
    movesCount := s.movesCount
    executionTime := s.executionTime
    errorX := s.errorX
    errorY := s.errorY
    errorMessage := s.errorMessage
    ipAddress := s.ipAddress
    userAgent := s.userAgent
    screen := s.screen
    device := Named.name s.device
    moves := s.moves
    attempts := s.attempts
    cellsVisited := s.cellsVisited
    totalCells := s.totalCells }

end SessionRow

/-- A stored entry of the audit log. -/
structure AuditRow where
  id : Int
  username : String
  action : String
  kind : String
  resourceType : String
  resourceId : Option String
  resourceName : Option String
  details : Option String
  timestamp : String
  ipAddress : Option String
  userAgent : Option String
  status : String
  errorMessage : Option String
  deriving DecidableEq, Repr

namespace AuditRow

/-- The entry of a row. -/
def read (r : AuditRow) : Read AuditEntry := do
  return {
    id := r.id
    username := r.username
    action := r.action
    kind := ← readName r.kind
    resourceType := r.resourceType
    resourceId := readText r.resourceId
    resourceName := readText r.resourceName
    details := readText r.details
    timestamp := ← readTime r.timestamp
    ipAddress := readText r.ipAddress
    userAgent := readText r.userAgent
    status := ← readName r.status
    errorMessage := readText r.errorMessage }

/-- The row of an event. -/
def ofEvent (id : Int) (now : Instant) (e : AuditEvent) : AuditRow :=
  { id
    username := e.username
    action := e.action
    kind := Named.name e.kind
    resourceType := e.resourceType
    resourceId := e.resourceId
    resourceName := e.resourceName
    details := e.details
    timestamp := now.stamp
    ipAddress := e.ipAddress
    userAgent := e.userAgent
    status := Named.name e.status
    errorMessage := e.errorMessage }

end AuditRow

/-- A stored login. -/
structure LoginRow where
  token : String
  userId : Int
  createdAt : String
  expiresAt : String
  ipAddress : Option String
  userAgent : Option String
  deriving DecidableEq, Repr

end RobotMaze
