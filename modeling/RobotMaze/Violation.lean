/-! # Violations — the rules that an input can break

    Each field rule of the game has a cause of its own here, with its wording in
    `Violation.message`.  Limits that a rule names are defined beside it. -/

namespace RobotMaze

/-- The number of rows of a grid. -/
def gridRows : Nat := 4

/-- The number of cells of a row. -/
def gridColumns : Nat := 5

/-- The greatest number of moves of a program. -/
def maxProgramMoves : Nat := 200

/-- The greatest number of characters of a track's name. -/
def maxTrackName : Nat := 100

/-- The lowest difficulty level. -/
def minDifficulty : Int := 1

/-- The highest difficulty level. -/
def maxDifficulty : Int := 5

/-- The least number of characters of a username. -/
def minUsername : Nat := 3

/-- The greatest number of characters of a username. -/
def maxUsername : Nat := 50

/-- The least number of characters of a password. -/
def minPassword : Nat := 6

/-- The longest time, in seconds, that a game reported in one call may have taken. -/
def maxQuickSeconds : Int := 86400

/-- The number of a session update that must not be negative. -/
inductive Counter where
  | moves
  | cells
  | attempts
  | executionTime
  deriving DecidableEq, Repr

/-- The name under which a client sends a counter. -/
def Counter.field : Counter → String
  | .moves => "movesCount"
  | .cells => "cellsVisited"
  | .attempts => "attemptsCount"
  | .executionTime => "executionTimeMs"

/-- A rule that an input breaks. -/
inductive Violation where
  | gridFormat
  | gridRowCount
  /-- The number of the first row of the wrong length, counted from one. -/
  | gridColumnCount (row : Nat)
  | gridCell
  | gridWithoutPath
  | startOffPath
  | programTooLong
  | trackNameMissing
  | trackNameTooLong
  | difficultyOutOfRange
  | usernameMissing
  | usernameLength
  | emailMissing
  | emailMalformed
  | passwordTooShort
  | unknownExportVersion (version : String)
  | negativeCounter (counter : Counter)
  | quickTimeTooLong
  | quickTimeOutOfRange
  | lifetimeOutOfRange
  deriving DecidableEq, Repr

/-- The wording of a violation. -/
def Violation.message : Violation → String
  | .gridFormat => "Invalid grid format: must be a valid JSON array"
  | .gridRowCount => "Grid must have exactly " ++ toString gridRows ++ " rows"
  | .gridColumnCount row =>
      "Row " ++ toString row ++ " must have exactly " ++ toString gridColumns ++ " columns"
  | .gridCell => "Grid cells must be 0 or 1"
  | .gridWithoutPath => "Grid must contain at least one path cell"
  | .startOffPath => "Start position must be on a path cell"
  | .programTooLong => "Program exceeds " ++ toString maxProgramMoves ++ " moves"
  | .trackNameMissing => "Track name is required"
  | .trackNameTooLong => "Track name cannot exceed " ++ toString maxTrackName ++ " characters"
  | .difficultyOutOfRange =>
      "Difficulty level must be between " ++ toString minDifficulty ++ " and "
        ++ toString maxDifficulty
  | .usernameMissing => "Username is required"
  | .usernameLength =>
      "Username must be between " ++ toString minUsername ++ " and " ++ toString maxUsername
        ++ " characters"
  | .emailMissing => "Email is required"
  | .emailMalformed => "Email must be a valid address"
  | .passwordTooShort => "Password must be at least " ++ toString minPassword ++ " characters"
  | .unknownExportVersion version => "Unsupported export version '" ++ version ++ "'"
  | .negativeCounter counter => counter.field ++ " must not be negative"
  | .quickTimeTooLong => "Time spent must not exceed " ++ toString maxQuickSeconds ++ " seconds"
  | .quickTimeOutOfRange => "Time spent is out of range"
  | .lifetimeOutOfRange => "Session lifetime is out of range"

end RobotMaze
