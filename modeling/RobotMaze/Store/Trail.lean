import RobotMaze.Audit.Basic
import RobotMaze.Json.Printer

/-! # The audit trail — the log as files

    Beside the store the log can be kept in files, one for each day, one line of
    JSON for each entry.

    * `Trail.append` adds the line of an entry to the file of its day. -/

namespace RobotMaze

/-- The files of the log. -/
inductive Trail where
  /-- No files are kept. -/
  | disabled
  /-- The folder of the files is gone; lines are lost. -/
  | lost
  /-- Names and texts of the files, in the order of their names. -/
  | files (texts : List (String × String))
  deriving DecidableEq, Repr

namespace Trail

/-- The name of the file for the entries of a day. -/
def fileOf (t : Time.Instant) : String := "audit-" ++ t.date.render ++ ".jsonl"

/-- The name of the file for an entry. -/
def fileName (e : AuditEntry) : String := fileOf e.timestamp

/-- The line of an entry. -/
def line (e : AuditEntry) : String := e.toJson.render ++ "\n"

/-- Adds the line of an entry to the file of its day. -/
def append (t : Trail) (e : AuditEntry) : Trail :=
  match t with
  | .disabled => .disabled
  | .lost => .lost
  | .files texts =>
      let before := (texts.lookup (fileName e)).getD ""
      .files (Keyed.insert (fileName e) (before ++ line e) texts)

/-- Whether lines are to be kept. -/
def isEnabled (t : Trail) : Bool := t != .disabled

/-- The files that there are. -/
def texts : Trail → List (String × String)
  | .files texts => texts
  | _ => []

/-- The trail after its folder has gone. -/
def lose (t : Trail) : Trail := if t.isEnabled then .lost else .disabled

end Trail

end RobotMaze
