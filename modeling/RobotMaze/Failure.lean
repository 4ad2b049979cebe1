import RobotMaze.Session.Basic
import RobotMaze.Violation

/-! # Failures — why an operation on the store did not succeed

    A `Failure` is a cause; `Failure.message` is its wording and
    `Failure.category` the class to which a caller reacts. -/

namespace RobotMaze

/-- A thing that is looked up by an id. -/
inductive Subject where
  | track
  | user
  | gameSession
  | auditEntry
  deriving DecidableEq, Repr

/-- The name of a subject in messages. -/
def Subject.title : Subject → String
  | .track => "Track"
  | .user => "User"
  | .gameSession => "Game session"
  | .auditEntry => "Audit entry"

/-- A rule between rows that a change would break. -/
inductive Conflict where
  | trackNameTaken
  | lastTrackDeactivated
  | lastTrackDeleted
  | activeTrackHoldsName
  | usernameTaken
  | emailTaken
  | lastAdminRemoved
  | lastAdminDeleted
  | ownAccount
  deriving DecidableEq, Repr

/-- The wording of a conflict. -/
def Conflict.message : Conflict → String
  | .trackNameTaken => "Track name already exists"
  | .lastTrackDeactivated => "Cannot deactivate the last active track"
  | .lastTrackDeleted => "Cannot delete the last active track"
  | .activeTrackHoldsName => "An active track with this name already exists"
  | .usernameTaken => "Username already exists"
  | .emailTaken => "Email already registered"
  | .lastAdminRemoved => "Cannot remove the last active administrator"
  | .lastAdminDeleted => "Cannot delete the last active administrator"
  | .ownAccount => "You cannot delete your own account"

/-- A stored value that does not read as what its column holds. -/
inductive Unreadable where
  | time (text : String)
  | name (text : String)
  | outOfRange (column : Nat) (value : Int)
  deriving DecidableEq, Repr

/-- The wording of an unreadable value. -/
def Unreadable.message : Unreadable → String
  | .time text => "Failed to parse datetime '" ++ text ++ "'"
  | .name text => "Failed to parse enum from '" ++ text ++ "'"
  | .outOfRange column value =>
      "column " ++ toString column ++ " out of range: " ++ toString value

/-- The class of a failure. -/
inductive FailureCategory where
  | query
  | migration
  | noResult
  | notFound
  | validation
  | conflict
  | invalidState
  | credentials
  | hashing
  | token
  | database
  | other
  deriving DecidableEq, Repr

instance : Named FailureCategory where
  all := [.query, .migration, .noResult, .notFound, .validation, .conflict, .invalidState,
    .credentials, .hashing, .token, .database, .other]
  name
    | .query => "Query"
    | .migration => "Migration"
    | .noResult => "NoResult"
    | .notFound => "NotFound"
    | .validation => "Validation"
    | .conflict => "Conflict"
    | .invalidState => "InvalidState"
    | .credentials => "InvalidCredentials"
    | .hashing => "Hashing"
    | .token => "Token"
    | .database => "Database"
    | .other => "Other"

/-- Why an operation did not succeed. -/
inductive Failure where
  | rejected (violation : Violation)
  | conflict (conflict : Conflict)
  | notFound (subject : Subject) (id : String)
  | forbidden (transition : ForbiddenTransition)
  | unreadable (value : Unreadable)
  | badCredentials
  /-- The work factor for passwords is out of bounds. -/
  | hashing
  /-- The store refuses a row that breaks its own rules, or a number that is too large. -/
  | refused
  /-- A file of the program's surroundings cannot be read or written. -/
  | surroundings
  deriving DecidableEq, Repr

namespace Failure

/-- The wording of a subject that does not exist. -/
def notFoundMessage (title id : String) : String := title ++ " not found with id: " ++ id

/-- The wording of a failure. -/
def message : Failure → String
  | .rejected v => v.message
  | .conflict c => c.message
  | .notFound subject id => notFoundMessage subject.title id
  | .forbidden t => t.message
  | .unreadable u => "Query failed: " ++ u.message
  | .badCredentials => "Invalid username or password"
  | .hashing => "password hashing failed"
  | .refused => "the store refused a value"
  | .surroundings => "a file could not be read or written"

/-- The class of a failure. -/
def category : Failure → FailureCategory
  | .rejected _ => .validation
  | .conflict _ => .conflict
  | .notFound _ _ => .notFound
  | .forbidden _ => .invalidState
  | .unreadable _ => .query
  | .badCredentials => .credentials
  | .hashing => .hashing
  | .refused => .database
  | .surroundings => .other

end Failure

end RobotMaze
