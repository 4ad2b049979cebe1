import RobotMaze.Statistics.Activity
import RobotMaze.Store.Database
import RobotMaze.Text.Pattern

/-! # The table of audit entries

    Entries are added and never changed.  Times are compared as they are stored,
    to the millisecond. -/

namespace RobotMaze.Database

open Time (Instant)

/-- Adds the row of an event. -/
def insertAudit (e : AuditEvent) (now : Instant) (db : Database) :
    Except Failure (AuditRow × Database) := do
  let (row, audit) ← db.audit.insert (fun id => .ofEvent id now e) fun _ _ => true
  return (row, { db with audit })

/-- The row of an entry. -/
def auditById (id : Int) (db : Database) : Option AuditRow := db.audit.find? id

/-- Which entries a listing shows. -/
structure AuditFilter where
  /-- A part of the username, in either case. -/
  username : Option String := none
  kind : Option AuditAction := none
  /-- The whole resource type, in either case. -/
  resourceType : Option String := none
  status : Option AuditStatus := none
  since : Option Instant := none
  upTo : Option Instant := none
  deriving DecidableEq, Repr

namespace AuditFilter

/-- Whether a listing shows an entry; the bounds of its time count as milliseconds. -/
def accepts (f : AuditFilter) (r : AuditRow) : Bool :=
  allows f.username (fun term => Text.Pattern.contains term r.username)
    && allows f.kind (fun k => r.kind == Named.name k)
    && allows f.resourceType (fun t => Text.asciiLower r.resourceType == Text.lower t)
    && allows f.status (fun s => r.status == Named.name s)
    && allows f.since (fun t => t.stamp ≤ r.timestamp)
    && allows f.upTo (fun t => r.timestamp ≤ t.stamp)

end AuditFilter

/-- The entries that a filter accepts. -/
def auditAccepted (f : AuditFilter) (db : Database) : List AuditRow :=
  db.audit.rows.filter f.accepts

/-- The entries that a filter accepts, newest first. -/
def listAudit (f : AuditFilter) (db : Database) : List AuditRow :=
  newestFirst AuditRow.timestamp (db.auditAccepted f)

/-- The entries of a page, newest first. -/
def pageOfAudit (f : AuditFilter) (p : PageRequest) (db : Database) : Read (List AuditRow) :=
  pageOf p (db.listAudit f)

/-- The latest entries. -/
def recentAudit (limit : UInt32) (db : Database) : List AuditRow :=
  (newestFirst AuditRow.timestamp db.audit.rows).take limit.toNat

/-- The number of entries. -/
def countAudit (db : Database) : Nat := db.audit.rows.length

/-- The entries of a span of time, both ends included. -/
def auditBetween (since upTo : Instant) (db : Database) : List AuditRow :=
  db.audit.rows.filter fun r => since.stamp ≤ r.timestamp && r.timestamp ≤ upTo.stamp

/-- The number of users with entries at an instant or later, nobody in particular left out. -/
def countAuditUsers (since : Instant) (db : Database) : Nat :=
  (((db.audit.rows.filter fun r =>
    since.stamp ≤ r.timestamp && r.username != systemUsername).map AuditRow.username).eraseDups).length

/-- The first characters of a text. -/
def leading (n : Nat) (s : String) : String := String.ofList (s.toList.take n)

/-- The day of a stored time. -/
def storedDay (time : String) : String := leading 10 time

/-- The values with the number of times that each occurs, in order. -/
def tally (values : List String) : List (String × Nat) :=
  Keyed.ofList (values.map fun v => (v, values.count v))

/-- The number of entries on each day of a span of time. -/
def auditByDay (since upTo : Instant) (db : Database) : List (String × Nat) :=
  tally ((db.auditBetween since upTo).map fun r => storedDay r.timestamp)

/-- The actions of each user in a span of time, the busiest user first. -/
def auditByUser (since upTo : Instant) (db : Database) : List UserActions :=
  let rows := db.auditBetween since upTo
  let users := (tally (rows.map AuditRow.username)).map Prod.fst
  let figures := users.map fun user =>
    UserActions.new user (tally ((rows.filter fun r => r.username == user).map AuditRow.kind))
  figures.mergeSort fun a b => b.total ≤ a.total

/-- The kinds of action that modify a resource. -/
def modifyingKinds : List String :=
  [AuditAction.create, AuditAction.update, AuditAction.delete].map Named.name

/-- The resources that were modified in a span of time, the most modified first, resources of one
    count by type and then by name, a missing name first. -/
def auditByResource (since upTo : Instant) (limit : UInt32) (db : Database) :
    List ResourceCount :=
  let rows := (db.auditBetween since upTo).filter fun r => modifyingKinds.contains r.kind
  let resources := (rows.map fun r => (r.resourceType, r.resourceName)).eraseDups
  let ordered := resources.mergeSort fun a b =>
    if a.1 = b.1 then a.2 = b.2 ∨ (SortKey.ofText? a.2).before (SortKey.ofText? b.2)
    else a.1 < b.1
  let figures := ordered.map fun resource =>
    ResourceCount.mk resource.1 (readText resource.2)
      (rows.countP fun r => r.resourceType == resource.1 && r.resourceName == resource.2)
  (figures.mergeSort fun a b => b.modifications ≤ a.modifications).take limit.toNat

end RobotMaze.Database
