import RobotMaze.Decimal
import RobotMaze.Service.AuditLog
import RobotMaze.Service.Games
import RobotMaze.Service.Reports
import RobotMaze.Service.Users
import RobotMaze.Web.Html
import RobotMaze.Web.Office.Desk

/-! # The back office: web pages

    Every view of a page is recorded in the audit log.

    * `PageRoute` are the pages;
    * `PageRoute.handlers` — what each of them shows, by method. -/

namespace RobotMaze.Web.Office

/-- A page of the back office. -/
inductive PageRoute where
  | dashboard
  | users
  | tracks
  | audit
  | figures
  | designer
  deriving DecidableEq, Repr

/-- The page of a path. -/
def PageRoute.ofPath? : List String → Option PageRoute
  | ["admin", "dashboard"] => some .dashboard
  | ["admin", "users"] => some .users
  | ["admin", "tracks"] => some .tracks
  | ["admin", "audit"] => some .audit
  | ["admin", "statistics"] => some .figures
  | ["config", "tracks"] => some .designer
  | _ => none

/-- Shows a page, and records that it was seen. -/
def showPage (c : Context) (r : Request) (p : Principal) (title name body : String) :
    Handling Response := do
  let event := (actor r p).event ("Viewed " ++ name) .read "PAGE"
  perform (AuditLog.note (event.onResourceId name) c.now)
  return .page (Html.page title (some p) body)

/-- The references to the pages before and after the one that is shown. -/
def pager (number : UInt32) (totalPages : Nat) (path : String) : String :=
  let target := fun n : UInt32 => path ++ "?page=" ++ toString n
  "<p class=\"pager\">"
    ++ (if 0 < number then Html.link (target (number - 1)) "Previous" ++ " " else "")
    ++ "Page " ++ toString (number + 1) ++ " of " ++ toString (max totalPages 1)
    ++ (if number.toNat + 1 < totalPages then " " ++ Html.link (target (number + 1)) "Next" else "")
    ++ "</p>"

/-- A percentage as people read it. -/
def percent (x : Float) : String := Decimal.fixed 2 x ++ "%"

/-- Whether something is active, as people read it. -/
def activity (isActive : Bool) : String := if isActive then "Active" else "Inactive"

/-- A game on the dashboard. -/
def sessionCells (s : GameSession) : List String :=
  [s.sessionId, toString s.trackId, Named.name s.status, Named.name s.device, s.startTime.display]

/-- An entry on the dashboard. -/
def briefEntryCells (e : AuditEntry) : List String := [e.timestamp.display, e.username, e.action]

/-- The dashboard: the figures of the last week, the latest games and the latest entries. -/
def dashboardPage : Handler := fun c r p => do
  let figures ← perform (Reports.dashboard c.now)
  let games ← perform (Games.recent 10)
  let entries ← perform (AuditLog.recent 10)
  let body :=
    Html.summary [
      ("Active users", toString figures.users),
      ("Active tracks", toString figures.tracks),
      ("Sessions today", toString figures.sessionsToday),
      ("Sessions this week", toString figures.sessionsThisWeek),
      ("Success rate", percent figures.successRate),
      ("Audit entries this week", toString figures.auditEntriesThisWeek)]
    ++ "\n<h2>Recent games</h2>\n"
    ++ Html.table ["Session", "Track", "Status", "Device", "Started"] (games.map sessionCells)
    ++ "\n<h2>Recent activity</h2>\n"
    ++ Html.table ["When", "User", "Action"] (entries.map briefEntryCells)
  showPage c r p "Dashboard" "dashboard" body

/-- A user in a list. -/
def userCells (u : User) : List String :=
  [u.username, u.fullName, u.email, Named.name u.role, activity u.isActive,
    (u.lastLogin.map Time.Instant.display).getD ""]

/-- A page of users, by username. -/
def usersPage : Handler := fun c r p => do
  let request := (← listing c r).sorted "username" .ascending
  let page ← perform (Users.page {} request)
  let body :=
    Html.table ["Username", "Name", "Email", "Role", "Status", "Last login"]
      (page.content.map userCells)
    ++ pager page.number page.totalPages "/admin/users"
  showPage c r p "Users" "users" body

/-- A track in a list. -/
def trackCells (t : Track) : List String :=
  [toString t.id, t.name, toString t.difficulty, activity t.isActive, t.updatedAt.display]

/-- A page of tracks. -/
def tracksPage : Handler := fun c r p => do
  let page ← perform (Tracks.page (← listing c r))
  let body :=
    Html.table ["Id", "Name", "Difficulty", "Status", "Updated"] (page.content.map trackCells)
    ++ pager page.number page.totalPages "/admin/tracks"
  showPage c r p "Tracks" "tracks" body

/-- An entry in a list. -/
def entryCells (e : AuditEntry) : List String :=
  [e.timestamp.display, e.username, e.action, Named.name e.kind, e.resourceType,
    e.resourceName.getD "", Named.name e.status]

/-- A page of the audit log. -/
def auditPage : Handler := fun c r p => do
  let page ← perform (AuditLog.page {} (← auditListing c r))
  let body :=
    Html.table ["When", "User", "Action", "Type", "Resource", "Name", "Status"]
      (page.content.map entryCells)
    ++ pager page.number page.totalPages "/admin/audit"
  showPage c r p "Audit log" "audit log" body

/-- A track in the statistics. -/
def trackFigureCells (t : TrackFigures) : List String :=
  [t.trackName, toString t.total, toString t.successful, percent t.successRate]

/-- A class of devices in the statistics. -/
def deviceFigureCells (d : DeviceFigures) : List String :=
  [d.device, toString d.total, percent d.successRate]

/-- The statistics: all games of the last days, by track and by device. -/
def figuresPage : Handler := fun c r p => do
  let overview ← perform (Reports.overview c.now)
  let tracks ← perform (Reports.tracks c.now)
  let devices ← perform (Reports.devices c.now)
  let body :=
    Html.summary [
      ("Games (30 days)", toString overview.total),
      ("Successful", toString overview.successful),
      ("Failed", toString overview.failed),
      ("Success rate", percent overview.successRate),
      ("Average moves", Decimal.fixed 1 overview.averageMoves),
      ("Average time", toString overview.averageMillis ++ " ms")]
    ++ "\n<h2>Tracks</h2>\n"
    ++ Html.table ["Track", "Games", "Successful", "Success rate"] (tracks.map trackFigureCells)
    ++ "\n<h2>Devices</h2>\n"
    ++ Html.table ["Device", "Games", "Success rate"] (devices.map deviceFigureCells)
  showPage c r p "Statistics" "statistics" body

/-- A track in the designer. -/
def trackSection (t : Track) : String :=
  "<section>\n<h2>" ++ Html.escape t.name ++ "</h2>\n" ++ Html.gridPreview t ++ "\n</section>\n"

/-- The track designer with the active tracks. -/
def designerPage : Handler := fun c r p => do
  let tracks ← perform Tracks.active
  let body :=
    if tracks.isEmpty then "<p>No active tracks</p>" else String.join (tracks.map trackSection)
  showPage c r p "Track designer" "track designer" body

/-- What a page shows, by method. -/
def PageRoute.handlers : PageRoute → List (Method × Handler)
  | .dashboard => [(.get, dashboardPage)]
  | .users => [(.get, usersPage)]
  | .tracks => [(.get, tracksPage)]
  | .audit => [(.get, auditPage)]
  | .figures => [(.get, figuresPage)]
  | .designer => [(.get, designerPage)]

end RobotMaze.Web.Office
