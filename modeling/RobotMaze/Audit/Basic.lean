import RobotMaze.Named
import RobotMaze.Text.Blank
import RobotMaze.Time.Printer

/-! # The audit log — entries and events

    Every change of the store is recorded.  An `AuditEvent` is what is about to
    be recorded, an `AuditEntry` what was.

    * `Actor.event` starts an event on behalf of someone; nobody is `system`;
    * `AuditEntry.toJson`, `AuditEntry.decoder` — the JSON form of an entry. -/

namespace RobotMaze

open Time (Instant)

/-- The kind of a recorded action. -/
inductive AuditAction where
  | create
  | read
  | update
  | delete
  | login
  | logout
  | exported
  | imported
  | configure
  deriving DecidableEq, Repr

instance : Named AuditAction where
  all := [.create, .read, .update, .delete, .login, .logout, .exported, .imported, .configure]
  name
    | .create => "CREATE"
    | .read => "READ"
    | .update => "UPDATE"
    | .delete => "DELETE"
    | .login => "LOGIN"
    | .logout => "LOGOUT"
    | .exported => "EXPORT"
    | .imported => "IMPORT"
    | .configure => "CONFIGURE"

/-- How a recorded action ended. -/
inductive AuditStatus where
  | success
  | failed
  | incomplete
  deriving DecidableEq, Repr

instance : Named AuditStatus where
  all := [.success, .failed, .incomplete]
  name
    | .success => "SUCCESS"
    | .failed => "FAILED"
    | .incomplete => "PARTIAL"

/-- The username under which actions of nobody in particular are recorded. -/
def systemUsername : String := "system"

/-- A recorded action. -/
structure AuditEntry where
  id : Int
  username : String
  action : String
  kind : AuditAction
  resourceType : String
  resourceId : Option String
  resourceName : Option String
  details : Option String
  timestamp : Instant
  ipAddress : Option String
  userAgent : Option String
  status : AuditStatus
  errorMessage : Option String
  deriving DecidableEq, Repr

namespace AuditEntry

/-- An entry as an object. -/
def toJson (e : AuditEntry) : Json :=
  .object [
    ("id", .whole e.id),
    ("username", .string e.username),
    ("action", .string e.action),
    ("actionType", Named.toJson e.kind),
    ("resourceType", .string e.resourceType),
    ("resourceId", .optional .string e.resourceId),
    ("resourceName", .optional .string e.resourceName),
    ("details", .optional .string e.details),
    ("timestamp", e.timestamp.toJson),
    ("ipAddress", .optional .string e.ipAddress),
    ("userAgent", .optional .string e.userAgent),
    ("status", Named.toJson e.status),
    ("errorMessage", .optional .string e.errorMessage)]

/-- Decodes an entry. -/
def decoder : Json.Decoder AuditEntry :=
  (AuditEntry.mk
    <$> .required "id" .int64
    <*> .required "username" .string
    <*> .required "action" .string
    <*> .required "actionType" Named.decoder
    <*> .required "resourceType" .string
    <*> .optional "resourceId" .string
    <*> .optional "resourceName" .string
    <*> .optional "details" .string
    <*> .required "timestamp" Instant.decoder
    <*> .optional "ipAddress" .string
    <*> .optional "userAgent" .string
    <*> .required "status" Named.decoder
    <*> .optional "errorMessage" .string : Json.Record AuditEntry).decoder

end AuditEntry

/-- An action about to be recorded. -/
structure AuditEvent where
  username : String
  action : String
  kind : AuditAction
  resourceType : String
  resourceId : Option String := none
  resourceName : Option String := none
  details : Option String := none
  ipAddress : Option String := none
  userAgent : Option String := none
  status : AuditStatus := .success
  errorMessage : Option String := none
  deriving DecidableEq, Repr

namespace AuditEvent

/-- The name under which someone is recorded: trimmed, or `system` when there is none. -/
def recordedName (username : Option String) : String :=
  ((username.map Text.trim).filter fun name => !name.isEmpty).getD systemUsername

/-- A successful action of a user on a kind of resource. -/
def new (username : Option String) (action : String) (kind : AuditAction)
    (resourceType : String) : AuditEvent :=
  { username := recordedName username, action, kind, resourceType }

/-- Names the resource by its id and name. -/
def onResource (e : AuditEvent) (id name : String) : AuditEvent :=
  { e with resourceId := some id, resourceName := some name }

/-- Names the resource by its id only. -/
def onResourceId (e : AuditEvent) (id : String) : AuditEvent :=
  { e with resourceId := some id }

/-- Adds details. -/
def withDetails (e : AuditEvent) (details : String) : AuditEvent :=
  { e with details := some details }

/-- Adds where the action came from. -/
def fromClient (e : AuditEvent) (ipAddress userAgent : Option String) : AuditEvent :=
  { e with ipAddress, userAgent }

/-- Turns the action into a failed one. -/
def failed (e : AuditEvent) (message : String) : AuditEvent :=
  { e with status := .failed, errorMessage := some message }

/-- An event as an object. -/
def toJson (e : AuditEvent) : Json :=
  .object [
    ("username", .string e.username),
    ("action", .string e.action),
    ("action_type", Named.toJson e.kind),
    ("resource_type", .string e.resourceType),
    ("resource_id", .optional .string e.resourceId),
    ("resource_name", .optional .string e.resourceName),
    ("details", .optional .string e.details),
    ("ip_address", .optional .string e.ipAddress),
    ("user_agent", .optional .string e.userAgent),
    ("status", Named.toJson e.status),
    ("error_message", .optional .string e.errorMessage)]

/-- A recorded name is never blank. -/
theorem recordedName_ne_empty (username : Option String) : recordedName username ≠ "" := by
  unfold recordedName
  cases h : (username.map Text.trim).filter fun name => !name.isEmpty with
  | none => simp [systemUsername]
  | some name =>
      have := (Option.filter_eq_some_iff.mp h).2
      simp at this
      simpa using this

end AuditEvent

/-- Who acts, and from where. -/
structure Actor where
  username : Option String := none
  ipAddress : Option String := none
  userAgent : Option String := none
  deriving DecidableEq, Repr

namespace Actor

/-- Nobody in particular. -/
def system : Actor := {}

/-- A user whose whereabouts do not matter. -/
def user (username : String) : Actor := { username := some username }

/-- Starts an event of this actor. -/
def event (a : Actor) (action : String) (kind : AuditAction) (resourceType : String) :
    AuditEvent :=
  (AuditEvent.new a.username action kind resourceType).fromClient a.ipAddress a.userAgent

end Actor

end RobotMaze
