import RobotMaze.Service.AuditLog
import RobotMaze.Service.Reports
import RobotMaze.Web.Office.Desk

/-! # The back office: statistics

    * `FigureRoute` are the addresses of the statistics;
    * `FigureRoute.handlers` — what each of them does, by method. -/

namespace RobotMaze.Web.Office

/-- An address that has to do with statistics. -/
inductive FigureRoute where
  | audit
  | dashboard
  | tracks
  | devices
  | times
  | errors
  | users
  | overview
  | report
  | complete
  | exportAll
  | activity
  deriving DecidableEq, Repr

/-- The address of a path below `/api/admin/statistics`. -/
def FigureRoute.ofPath? : List String → Option FigureRoute
  | [] => some .audit
  | ["dashboard"] => some .dashboard
  | ["tracks"] => some .tracks
  | ["devices"] => some .devices
  | ["times"] => some .times
  | ["errors"] => some .errors
  | ["users"] => some .users
  | ["overview"] => some .overview
  | ["report"] => some .report
  | ["complete"] => some .complete
  | ["export"] => some .exportAll
  | _ => none

/-- The number of days that a query asks for. -/
def queriedDays (r : Request) (standard : UInt32) : Except Refusal UInt32 := do
  return daysAsked (← r.queried Text.uint32? "days") standard

/-- The figures of the last days. -/
def completeFigures : Handler := fun c r _ => do
  answer CompleteFigures.toJson (Reports.complete (← require (queriedDays r 7)) c.now)

/-- The activity of the last days. -/
def recentActivity : Handler := fun c r _ => do
  answer ActivitySeries.toJson (Reports.activity (← require (queriedDays r 7)) c.now)

/-- The form in which statistics are saved. -/
inductive ExportFormat where
  | json
  | csv
  deriving DecidableEq, Repr

instance : Named ExportFormat where
  all := [.json, .csv]
  name
    | .json => "json"
    | .csv => "csv"

/-- Statistics to be saved. -/
def savedFigures (format : ExportFormat) (days : UInt32) (c : Context) : Op Response := do
  match format with
  | .json =>
      return (Response.json (← Reports.report c.now).toJson).saved "statistics.json"
  | .csv =>
      return .file "text/csv; charset=utf-8" "statistics.csv" (dailyCsv (← Reports.days days c.now))

/-- Saves statistics: the whole report as JSON, or the last days as a table. -/
def exportFigures : Handler := fun c r p => do
  let format := (← require (r.queried Named.ofName? "format")).getD .json
  let days ← require (queriedDays r 30)
  let response ← perform (savedFigures format days c)
  let details := "format=" ++ Named.name format ++ ", days=" ++ toString days
  let event := (actor r p).event "Statistics exported" .exported "STATISTICS"
  perform (AuditLog.note (event.withDetails details) c.now)
  return response

/-- What an address does, by method. -/
def FigureRoute.handlers : FigureRoute → List (Method × Handler)
  | .audit => [(.get, fun c _ _ => answer AuditFigures.toJson (Reports.audit c.now))]
  | .dashboard => [(.get, fun c _ _ => answer DashboardFigures.toJson (Reports.dashboard c.now))]
  | .tracks => [(.get, fun c _ _ => answer (.list TrackFigures.toJson) (Reports.tracks c.now))]
  | .devices => [(.get, fun c _ _ => answer (.list DeviceFigures.toJson) (Reports.devices c.now))]
  | .times => [(.get, fun c _ _ => answer (.list TrackTimes.toJson) (Reports.times c.now))]
  | .errors => [(.get, fun c _ _ => answer (.list ErrorCount.toJson) (Reports.errors c.now))]
  | .users => [(.get, fun c _ _ => answer (.list UserActions.toJson) (Reports.userActions c.now))]
  | .overview => [(.get, fun c _ _ => answer OverviewFigures.toJson (Reports.overview c.now))]
  | .report => [(.get, fun c _ _ => answer SystemReport.toJson (Reports.report c.now))]
  | .complete => [(.get, completeFigures)]
  | .exportAll => [(.get, exportFigures)]
  | .activity => [(.get, recentActivity)]

end RobotMaze.Web.Office
