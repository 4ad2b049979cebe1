import RobotMaze.Store.Sessions
import RobotMaze.Store.Tracks
import RobotMaze.Store.Users

/-! # Single cells of the store

    `Database.setCell` sets one column of one row, as a repair by hand would.
    Only the rules of the tables themselves hold: names of a fixed set, values
    that must be there, unique values and references between tables. -/

namespace RobotMaze

/-- A value to be put into a cell. -/
inductive Cell where
  | null
  | number (n : Int)
  | text (s : String)
  deriving DecidableEq, Repr

namespace Cell

/-- A value as a text; a number becomes its decimal form. -/
def asText : Cell → Option String
  | .null => none
  | .number n => some (toString n)
  | .text s => some s

/-- A value as a number; a text must be the decimal form of one. -/
def asNumber : Cell → Option Int
  | .null => none
  | .number n => some n
  | .text s => s.toInt?

variable {ρ : Type}

/-- Sets a text that must be there. -/
def setText (set : String → ρ → ρ) (c : Cell) : Option (ρ → ρ) := c.asText.map set

/-- Sets a text that may be missing. -/
def setTextOpt (set : Option String → ρ → ρ) (c : Cell) : Option (ρ → ρ) := some (set c.asText)

/-- Sets a number that must be there. -/
def setNumber (set : Int → ρ → ρ) (c : Cell) : Option (ρ → ρ) := c.asNumber.map set

/-- Sets a number that may be missing. -/
def setNumberOpt (set : Option Int → ρ → ρ) (c : Cell) : Option (ρ → ρ) :=
  match c with
  | .null => some (set none)
  | c => c.asNumber.map fun n => set (some n)

/-- Sets a name of a fixed set. -/
def setName {α : Type} [Named α] (set : α → ρ → ρ) (c : Cell) : Option (ρ → ρ) :=
  (c.asText.bind Named.ofName?).map set

end Cell

/-- What setting a column of a track does to its row. -/
def TrackRow.setter (column : String) (c : Cell) : Option (TrackRow → TrackRow) :=
  match column with
  | "id" => c.setNumber fun v r => { r with id := v }
  | "name" => c.setText fun v r => { r with name := v }
  | "grid_config" => c.setText fun v r => { r with gridConfig := v }
  | "start_x" => c.setNumber fun v r => { r with startX := v }
  | "start_y" => c.setNumber fun v r => { r with startY := v }
  | "start_direction" => c.setName fun v r => { r with heading := v }
  | "created_at" => c.setText fun v r => { r with createdAt := v }
  | "updated_at" => c.setText fun v r => { r with updatedAt := v }
  | "created_by" => c.setTextOpt fun v r => { r with createdBy := v }
  | "is_active" => c.setNumber fun v r => { r with isActive := v }
  | "difficulty_level" => c.setNumber fun v r => { r with difficulty := v }
  | "description" => c.setTextOpt fun v r => { r with description := v }
  | _ => none

/-- What setting a column of an account does to its row. -/
def UserRow.setter (column : String) (c : Cell) : Option (UserRow → UserRow) :=
  match column with
  | "id" => c.setNumber fun v r => { r with id := v }
  | "username" => c.setText fun v r => { r with username := v }
  | "password_hash" => c.setText fun v r => { r with passwordHash := .unusable v }
  | "email" => c.setText fun v r => { r with email := v }
  | "full_name" => c.setText fun v r => { r with fullName := v }
  | "role" => c.setName fun v r => { r with role := v }
  | "is_active" => c.setNumber fun v r => { r with isActive := v }
  | "created_at" => c.setText fun v r => { r with createdAt := v }
  | "last_login" => c.setTextOpt fun v r => { r with lastLogin := v }
  | "created_by" => c.setTextOpt fun v r => { r with createdBy := v }
  | _ => none

/-- What setting a column of a session does to its row. -/
def SessionRow.setter (column : String) (c : Cell) : Option (SessionRow → SessionRow) :=
  match column with
  | "id" => c.setNumber fun v r => { r with id := v }
  | "session_id" => c.setText fun v r => { r with sessionId := v }
  | "track_id" => c.setNumber fun v r => { r with trackId := v }
  | "start_time" => c.setText fun v r => { r with startTime := v }
  | "end_time" => c.setTextOpt fun v r => { r with endTime := v }
  | "status" => c.setName fun v r => { r with status := v }
  | "moves_count" => c.setNumber fun v r => { r with movesCount := v }
  | "execution_time_ms" => c.setNumberOpt fun v r => { r with executionTime := v }
  | "error_position_x" => c.setNumberOpt fun v r => { r with errorX := v }
  | "error_position_y" => c.setNumberOpt fun v r => { r with errorY := v }
  | "error_message" => c.setTextOpt fun v r => { r with errorMessage := v }
  | "ip_address" => c.setTextOpt fun v r => { r with ipAddress := v }
  | "user_agent" => c.setTextOpt fun v r => { r with userAgent := v }
  | "screen_resolution" => c.setTextOpt fun v r => { r with screen := v }
  | "device_type" => c.setText fun v r => { r with device := v }
  | "moves_sequence" => c.setTextOpt fun v r => { r with moves := v }
  | "attempts_count" => c.setNumber fun v r => { r with attempts := v }
  | "cells_visited" => c.setNumber fun v r => { r with cellsVisited := v }
  | "total_cells_required" => c.setNumber fun v r => { r with totalCells := v }
  | _ => none

/-- What setting a column of an audit entry does to its row. -/
def AuditRow.setter (column : String) (c : Cell) : Option (AuditRow → AuditRow) :=
  match column with
  | "id" => c.setNumber fun v r => { r with id := v }
  | "username" => c.setText fun v r => { r with username := v }
  | "action" => c.setText fun v r => { r with action := v }
  | "action_type" => c.setText fun v r => { r with kind := v }
  | "resource_type" => c.setText fun v r => { r with resourceType := v }
  | "resource_id" => c.setTextOpt fun v r => { r with resourceId := v }
  | "resource_name" => c.setTextOpt fun v r => { r with resourceName := v }
  | "details" => c.setTextOpt fun v r => { r with details := v }
  | "timestamp" => c.setText fun v r => { r with timestamp := v }
  | "ip_address" => c.setTextOpt fun v r => { r with ipAddress := v }
  | "user_agent" => c.setTextOpt fun v r => { r with userAgent := v }
  | "status" => c.setText fun v r => { r with status := v }
  | "error_message" => c.setTextOpt fun v r => { r with errorMessage := v }
  | _ => none

/-- The columns of each table. -/
def Table.columns : String → List String
  | "tracks" => ["id", "name", "grid_config", "start_x", "start_y", "start_direction",
      "created_at", "updated_at", "created_by", "is_active", "difficulty_level", "description"]
  | "users" => ["id", "username", "password_hash", "email", "full_name", "role", "is_active",
      "created_at", "last_login", "created_by"]
  | "game_sessions" => ["id", "session_id", "track_id", "start_time", "end_time", "status",
      "moves_count", "execution_time_ms", "error_position_x", "error_position_y",
      "error_message", "ip_address", "user_agent", "screen_resolution", "device_type",
      "moves_sequence", "attempts_count", "cells_visited", "total_cells_required"]
  | "audit_logs" => ["id", "username", "action", "action_type", "resource_type", "resource_id",
      "resource_name", "details", "timestamp", "ip_address", "user_agent", "status",
      "error_message"]
  | _ => []

namespace Database

/-- Sets a cell of a table.  Rows are put back into the order of their ids. -/
def setIn {ρ : Type} [Row ρ] (t : Table ρ) (id : Int) (change : Option (ρ → ρ))
    (acceptable : ρ → List ρ → Bool) : Except Failure (Nat × Table ρ) :=
  match t.find? id with
  | none => .ok (0, t)
  | some r =>
      match change with
      | none => .error .refused
      | some change =>
          let fresh := change r
          let others := t.others id
          let idIsFree := !others.any fun o => Row.id o == Row.id fresh
          if idIsFree && acceptable fresh others then
            let rows := (fresh :: others).mergeSort fun a b => Row.id a ≤ Row.id b
            .ok (1, { t with rows })
          else .error .refused

/-- Sets one column of one row; returns the number of rows that were set. -/
def setCell (table column : String) (id : Int) (c : Cell) (db : Database) :
    Except Failure (Nat × Database) :=
  if !(Table.columns table).contains column then .error .refused
  else match table with
    | "tracks" => do
        let acceptable := fun (r : TrackRow) others => trackIsAcceptable r others
          && (r.id == id || !db.sessions.rows.any fun s => s.trackId == id)
        let (n, tracks) ← setIn db.tracks id (TrackRow.setter column c) acceptable
        return (n, { db with tracks })
    | "users" => do
        let acceptable := fun (r : UserRow) others => userIsAcceptable r others
          && (r.id == id || !db.logins.any fun s => s.userId == id)
        let (n, users) ← setIn db.users id (UserRow.setter column c) acceptable
        return (n, { db with users })
    | "game_sessions" => do
        let (n, sessions) ← setIn db.sessions id (SessionRow.setter column c)
          db.sessionIsAcceptable
        return (n, { db with sessions })
    | "audit_logs" => do
        let (n, audit) ← setIn db.audit id (AuditRow.setter column c) fun _ _ => true
        return (n, { db with audit })
    | _ => .error .refused

end Database

end RobotMaze
