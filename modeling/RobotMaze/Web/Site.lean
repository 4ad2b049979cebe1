import RobotMaze.Web.Entrance
import RobotMaze.Web.Office.Audit
import RobotMaze.Web.Office.Figures
import RobotMaze.Web.Office.Pages
import RobotMaze.Web.Office.Tracks
import RobotMaze.Web.Office.Users
import RobotMaze.Web.Play

/-! # The web site

    Every request has one answer.  The public game may be called by other web
    pages; the back office is open only to those who are logged in, and a request
    without a login does not even learn which methods a page knows.

    * `Route.ofPath?` is the address of a path;
    * `answer` is the response to a request. -/

namespace RobotMaze.Web

/-- An address of the back office. -/
inductive OfficeRoute where
  | page (route : Office.PageRoute)
  | tracks (route : Office.TrackRoute)
  | users (route : Office.UserRoute)
  | audit (route : Office.AuditRoute)
  | figures (route : Office.FigureRoute)
  deriving DecidableEq, Repr

/-- An address of the site. -/
inductive Route where
  | entrance (route : EntranceRoute)
  | play (route : PlayRoute)
  | office (route : OfficeRoute)
  deriving DecidableEq, Repr

namespace OfficeRoute

/-- The address of a path below `/api/admin`. -/
def ofPath? : List String → Option OfficeRoute
  | "tracks" :: rest => (Office.TrackRoute.ofPath? rest).map .tracks
  | "users" :: rest => (Office.UserRoute.ofPath? rest).map .users
  | "audit" :: rest => (Office.AuditRoute.ofPath? rest).map .audit
  | "statistics" :: rest => (Office.FigureRoute.ofPath? rest).map .figures
  | ["dashboard", "activity"] => some (.figures .activity)
  | _ => none

/-- What an address does, by method. -/
def handlers : OfficeRoute → List (Method × Office.Handler)
  | .page route => route.handlers
  | .tracks route => route.handlers
  | .users route => route.handlers
  | .audit route => route.handlers
  | .figures route => route.handlers

end OfficeRoute

namespace Route

/-- The address of the parts of a path. -/
def ofParts? : List String → Option Route
  | "api" :: "game" :: rest => (PlayRoute.ofGamePath? rest).map .play
  | "api" :: "track" :: rest => (PlayRoute.ofTrackPath? rest).map .play
  | "api" :: "admin" :: rest => (OfficeRoute.ofPath? rest).map .office
  | parts =>
      (EntranceRoute.ofPath? parts).map .entrance
        <|> (Office.PageRoute.ofPath? parts).map fun route => .office (.page route)

/-- The address of a path. -/
def ofPath? (path : String) : Option Route :=
  match Text.split '/' path with
  | "" :: parts => ofParts? parts
  | _ => none

end Route

/-! ## Methods -/

/-- What is done for a method; without anything of its own, a request for the head does what a
    request for the whole does. -/
def handlerFor? {η : Type} (handlers : List (Method × η)) (m : Method) : Option η :=
  handlers.lookup m <|> if m = .head then handlers.lookup .get else none

/-- The names of the methods that an address knows. -/
def methodNames {η : Type} (handlers : List (Method × η)) : List String :=
  handlers.flatMap fun (m, _) => if m = .get then ["GET", "HEAD"] else [m.name]

/-- The response to a method that an address does not know. -/
def wrongMethod (names : List String) : Response := .bare 405 [("allow", ",".intercalate names)]

/-- The response of an address that anybody may call. -/
def openAnswer (handlers : List (Method × Handler)) (c : Context) (r : Request) :
    Steps Store Response :=
  match handlerFor? handlers r.method with
  | some handler => respond c r (handler c r)
  | none => return wrongMethod (methodNames handlers)

/-! ## Calls from other web pages -/

/-- The request fields on which the answers of the game depend. -/
def varyingFields : String := "origin, access-control-request-method, access-control-request-headers"

/-- The web page that may see an answer. -/
def allowedOrigin? (s : ServerSettings) (r : Request) : Option String :=
  if s.allowsAnyOrigin then some "*"
  else (r.header? "origin").filter fun origin =>
    (s.origins.filter isFieldValue).contains origin

/-- The fields that tell a browser who may see an answer. -/
def sharingFields (s : ServerSettings) (r : Request) : List (String × String) :=
  ("vary", varyingFields)
    :: ((allowedOrigin? s r).map fun origin => ("access-control-allow-origin", origin)).toList

/-- The answer to a browser that asks what it may call. -/
def permissions (s : ServerSettings) (r : Request) : Response :=
  .bare 200 (sharingFields s r ++ [
    ("access-control-allow-methods", "GET,POST,PUT,OPTIONS"),
    ("access-control-allow-headers", "content-type"),
    ("access-control-max-age", "3600")])

/-- The response of an address of the public game. -/
def playAnswer (route : PlayRoute) (c : Context) (r : Request) : Steps Store Response := do
  let server := c.settings.server
  if r.method = .options then
    return permissions server r
  let response ← openAnswer route.handlers c r
  return { response with fields := response.fields ++ sharingFields server r }

/-! ## The gate of the back office -/

/-- The page on which one logs in. -/
def loginPath : String := "/login"

/-- The answer to someone who is not logged in: a refusal for programs, the login page for
    people. -/
def turnAway (path : String) : Response :=
  if path.startsWith "/api/" then Refusal.loginRequired.response else .redirect loginPath

/-- Lets those in who are logged in and may enter the back office. -/
def gate (c : Context) (r : Request) (inside : Principal → Steps Store Response) :
    Steps Store Response :=
  match r.token? c.cookieName with
  | none => return turnAway r.path
  | some token => do
      match ← ExceptT.run (Logins.resolve token c.now) with
      | .error f => return (Refusal.ofFailure f).response
      | .ok none => return turnAway r.path
      | .ok (some p) =>
          if p.role.entersBackOffice then inside p else return Refusal.denied.response

/-- The response of an address of the back office. -/
def officeAnswer (route : OfficeRoute) (c : Context) (r : Request) : Steps Store Response :=
  gate c r fun p =>
    match handlerFor? route.handlers r.method with
    | some handler => respond c r (handler c r p)
    | none => return wrongMethod (methodNames route.handlers)

/-! ## All requests -/

/-- The response of an address. -/
def Route.answer (c : Context) (r : Request) : Route → Steps Store Response
  | .entrance route => openAnswer route.handlers c r
  | .play route => playAnswer route c r
  | .office route => officeAnswer route c r

/-- The response to a request. -/
def answer (c : Context) (r : Request) : Steps Store Response := do
  match Route.ofPath? r.path with
  | none => return .bare 404 []
  | some route =>
      let response ← route.answer c r
      return if r.method = .head then response.withoutBody else response

end RobotMaze.Web
