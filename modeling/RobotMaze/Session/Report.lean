import RobotMaze.Session.Basic
import RobotMaze.Violation

/-! # Progress reports — what a client says about its session

    * `ProgressReport.check` — no counter may be negative;
    * `ProgressReport.applyTo` — the session after the report. -/

namespace RobotMaze

open Time (Instant)

/-- A client's report on a session; what it leaves out stays as it is. -/
structure ProgressReport where
  movesCount : Option Int := none
  moves : Option String := none
  cellsVisited : Option Int := none
  attempts : Option Int := none
  screen : Option String := none
  status : Option SessionStatus := none
  /-- Counts only when the status becomes success or failed. -/
  executionTime : Option Int := none
  /-- Counts only when the status becomes failed, like the error's position. -/
  errorMessage : Option String := none
  errorX : Option Int := none
  errorY : Option Int := none
  deriving DecidableEq, Repr

namespace ProgressReport

/-- The counters of a report. -/
def counters (r : ProgressReport) : List (Counter × Option Int) :=
  [(.moves, r.movesCount), (.cells, r.cellsVisited), (.attempts, r.attempts),
    (.executionTime, r.executionTime)]

/-- Whether a counter was given and is negative. -/
def isNegative : Option Int → Bool
  | some n => n < 0
  | none => false

/-- No counter may be negative; the first that is gets reported. -/
def check (r : ProgressReport) : Except Violation Unit :=
  match r.counters.find? fun c => isNegative c.2 with
  | some (counter, _) => .error (.negativeCounter counter)
  | none => .ok ()

/-- The counters and texts of a report put into a session. -/
def applyCounters (r : ProgressReport) (s : GameSession) : GameSession :=
  { s with
    movesCount := r.movesCount.getD s.movesCount
    moves := r.moves <|> s.moves
    cellsVisited := r.cellsVisited.getD s.cellsVisited
    attempts := r.attempts.getD s.attempts
    screen := r.screen <|> s.screen }

/-- The change of state that a report asks for, with what belongs to it. -/
def applyStatus (r : ProgressReport) (now : Instant) (s : GameSession) :
    Except ForbiddenTransition GameSession :=
  match r.status with
  | none => .ok s
  | some status => do
      let changes := s.status ≠ status
      let s ← s.transition status now
      let s :=
        if changes ∧ status.endsSession then
          { s with executionTime := r.executionTime <|> s.executionTime }
        else s
      return if changes ∧ status = .failed then
        { s with errorMessage := r.errorMessage, errorX := r.errorX, errorY := r.errorY }
      else s

/-- The session after a report. -/
def applyTo (r : ProgressReport) (now : Instant) (s : GameSession) :
    Except ForbiddenTransition GameSession :=
  r.applyStatus now (r.applyCounters s)

/-- What a report holds as an object. -/
def toJson (r : ProgressReport) : Json :=
  .object (List.flatten [
    (r.movesCount.map fun v => ("movesCount", Json.whole v)).toList,
    (r.moves.map fun v => ("movesSequence", Json.string v)).toList,
    (r.cellsVisited.map fun v => ("cellsVisited", Json.whole v)).toList,
    (r.attempts.map fun v => ("attemptsCount", Json.whole v)).toList,
    (r.screen.map fun v => ("screenResolution", Json.string v)).toList,
    (r.status.map fun v => ("status", Named.toJson v)).toList,
    (r.executionTime.map fun v => ("executionTimeMs", Json.whole v)).toList,
    (r.errorMessage.map fun v => ("errorMessage", Json.string v)).toList,
    (r.errorX.map fun v => ("errorPositionX", Json.whole v)).toList,
    (r.errorY.map fun v => ("errorPositionY", Json.whole v)).toList])

/-- Decodes a report. -/
def decoder : Json.Decoder ProgressReport :=
  (ProgressReport.mk
    <$> .omittable "movesCount" .int64
    <*> .omittable "movesSequence" .string
    <*> .omittable "cellsVisited" .int64
    <*> .omittable "attemptsCount" .int64
    <*> .omittable "screenResolution" .string
    <*> .omittable "status" Named.decoder
    <*> .omittable "executionTimeMs" .int64
    <*> .omittable "errorMessage" .string
    <*> .omittable "errorPositionX" .int32
    <*> .omittable "errorPositionY" .int32 : Json.Record ProgressReport).decoder

end ProgressReport

end RobotMaze
