import RobotMaze.Service.AuditLog
import RobotMaze.Web.Office.Desk

/-! # The back office: the audit log

    * `AuditRoute` are the addresses below `/api/admin/audit`;
    * `AuditRoute.handlers` — what each of them does, by method. -/

namespace RobotMaze.Web.Office

open Database (AuditFilter)

/-- An address that has to do with the audit log. -/
inductive AuditRoute where
  | listing
  | search
  | exportAll
  | one (id : String)
  deriving DecidableEq, Repr

/-- The address of a path below `/api/admin/audit`. -/
def AuditRoute.ofPath? : List String → Option AuditRoute
  | [] => some .listing
  | ["search"] => some .search
  | ["export"] => some .exportAll
  | [id] => if id.isEmpty then none else some (.one id)
  | _ => none

/-- A page of entries. -/
def listAudit : Handler := fun c r _ => do
  answer (Page.toJson AuditEntry.toJson) (AuditLog.page {} (← auditListing c r))

/-- A text without the white space around it, if it is not blank. -/
def nonBlank (text : Option String) : Option String :=
  (text.map Text.trim).filter fun t => !t.isEmpty

/-- What an audit search asks for. -/
structure AuditSearch where
  action : Option AuditAction
  entity : Option String
  username : Option String
  status : Option AuditStatus
  since : Option String
  upTo : Option String

/-- The audit search of a query. -/
def auditSearch (r : Request) : Except Refusal AuditSearch := do
  return {
    action := ← r.queried Named.ofName? "action"
    entity := ← r.queried some "entity"
    username := ← r.queried some "username"
    status := ← r.queried Named.ofName? "status"
    since := ← r.queried some "fromDate"
    upTo := ← r.queried some "toDate" }

/-- The filter of an audit search. -/
def AuditSearch.filter (s : AuditSearch) : Except Refusal AuditFilter := do
  let since ← dateBoundOpt .lower s.since
  let upTo ← dateBoundOpt .upper s.upTo
  return {
    username := nonBlank s.username
    kind := s.action
    resourceType := nonBlank s.entity
    status := s.status
    since
    upTo }

/-- A page of the entries that a search finds. -/
def searchAudit : Handler := fun c r _ => do
  let page ← auditListing c r
  let search ← require (auditSearch r)
  answer (Page.toJson AuditEntry.toJson) (AuditLog.page (← require search.filter) page)

/-- An entry. -/
def getAudit (id : String) : Handler := fun _ _ _ => do
  answer AuditEntry.toJson (AuditLog.get (← require (pathId id)))

/-- The entries that a search finds, as lines of JSON. -/
def exportAudit : Handler := fun c r p => do
  let search ← require (auditSearch r)
  let lines ← perform (AuditLog.exportLines (← require search.filter))
  perform (AuditLog.note ((actor r p).event "Audit log exported" .exported "AUDIT") c.now)
  return .file "application/x-ndjson" "audit-log.jsonl" lines

/-- What an address does, by method. -/
def AuditRoute.handlers : AuditRoute → List (Method × Handler)
  | .listing => [(.get, listAudit)]
  | .search => [(.get, searchAudit)]
  | .exportAll => [(.get, exportAudit)]
  | .one id => [(.get, getAudit id)]

end RobotMaze.Web.Office
