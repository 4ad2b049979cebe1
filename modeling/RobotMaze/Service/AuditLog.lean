import RobotMaze.Store.Audit

/-! # The audit log as a service

    Recording never fails: an entry that cannot be stored is left out.  What was
    stored is also added to the audit trail. -/

namespace RobotMaze.AuditLog

open Time (Instant)
open Database (AuditFilter)

/-- Records an event; returns the stored entry. -/
def record (e : AuditEvent) (now : Instant) : Op (Option AuditEntry) := do
  match ← Op.attempt (Op.change (Database.insertAudit e now)) with
  | .error _ => return none
  | .ok row =>
      match row.read with
      | .error _ => return none
      | .ok entry =>
          Op.addToTrail entry
          return some entry

/-- Records an event without regard to what is stored. -/
def note (e : AuditEvent) (now : Instant) : Op Unit := do
  let _ ← record e now
  return ()

/-- The entries of rows. -/
def readAll (rows : List AuditRow) : Op (List AuditEntry) := Op.ofRead (rows.mapM AuditRow.read)

/-- An entry. -/
def get (id : Int) : Op AuditEntry := do
  match ← Op.query (Database.auditById id) with
  | some row => Op.ofRead row.read
  | none => throw (.notFound .auditEntry (toString id))

/-- One page of the entries that a filter accepts, newest first. -/
def page (f : AuditFilter) (p : PageRequest) : Op (Page AuditEntry) := do
  let total ← Op.query fun db => (db.auditAccepted f).length
  let rows ← Op.queryRead (Database.pageOfAudit f p)
  return Page.new (← readAll rows) p total

/-- All entries that a filter accepts, newest first. -/
def list (f : AuditFilter) : Op (List AuditEntry) := do
  readAll (← Op.query (Database.listAudit f))

/-- The entries that a filter accepts as lines of JSON. -/
def exportLines (f : AuditFilter) : Op String := do
  return String.join ((← list f).map Trail.line)

/-- The latest entries. -/
def recent (limit : UInt32) : Op (List AuditEntry) := do
  readAll (← Op.query (Database.recentAudit limit))

/-- The latest entry. -/
def latest : Op (Option AuditEntry) := do
  return (← recent 1).head?

/-- The number of entries. -/
def count : Op Nat := Op.query Database.countAudit

/-- The number of entries of a span of time. -/
def countBetween (since upTo : Instant) : Op Nat :=
  Op.query fun db => (db.auditBetween since upTo).length

/-- The number of users with entries at an instant or later. -/
def usersSince (since : Instant) : Op Nat := Op.query (Database.countAuditUsers since)

/-- The number of entries on each day of a span of time. -/
def byDay (since upTo : Instant) : Op (List (String × Nat)) :=
  Op.query (Database.auditByDay since upTo)

/-- The actions of each user in a span of time. -/
def byUser (since upTo : Instant) : Op (List UserActions) :=
  Op.query (Database.auditByUser since upTo)

/-- The resources that were modified in a span of time. -/
def byResource (since upTo : Instant) (limit : UInt32) : Op (List ResourceCount) :=
  Op.query (Database.auditByResource since upTo limit)

end RobotMaze.AuditLog
