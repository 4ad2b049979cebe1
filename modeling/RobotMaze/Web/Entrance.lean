import RobotMaze.Service.Logins
import RobotMaze.Web.Handling
import RobotMaze.Web.Html

/-! # The entrance — game page, login and logout

    * `EntranceRoute` are the pages that anybody may see;
    * `EntranceRoute.handlers` — what each of them does, by method. -/

namespace RobotMaze.Web

/-- A page that anybody may see. -/
inductive EntranceRoute where
  | home
  | game
  | login
  | logout
  deriving DecidableEq, Repr

namespace Entrance

/-- Where someone who has logged in goes. -/
def dashboardPath : String := "/admin/dashboard"

/-- The front page leads to the game. -/
def home : Handler := fun _ _ => return .redirect "/game"

/-- What is shown after a logout. -/
def loggedOutNotice : String := "<p class=\"notice\">You have been logged out.</p>\n"

/-- A text that is shown only in some case. -/
def shownIf (condition : Bool) (text : String) : String := if condition then text else ""

/-- The track that is asked for, if it can be played, or one picked at random. -/
def pickTrack (requested : Option Int) (number : Nat) : Op (Option Track) := do
  match requested with
  | none => Tracks.random number
  | some id =>
      match ← Op.attempt (Tracks.getActive id) with
      | .ok t => return some t
      | .error f =>
          match f.category with
          | .notFound => Tracks.random number
          | _ => throw f

/-- A track on the game page. -/
def trackSection (t : Track) : String :=
  "<h2>" ++ Html.escape t.name ++ "</h2>\n<p>Difficulty " ++ toString t.difficulty ++ "</p>\n"
    ++ (t.description.map fun d => "<p>" ++ Html.escape d ++ "</p>\n").getD ""
    ++ Html.gridPreview t ++ "\n" ++ Html.dataBlock "track-data" t.toJson

/-- The game page. -/
def game : Handler := fun c r => do
  let requested ← require (r.queried Text.int64? "trackId")
  let loggedOut ← require (r.queried Text.bool? "logout")
  let content :=
    match ← perform (pickTrack requested c.number) with
    | some t => trackSection t
    | none => "<p>No tracks available</p>"
  return .page (Html.page "Game for Devs" none
    (shownIf (loggedOut == some true) loggedOutNotice ++ content))

/-- What is shown after a rejected login. -/
def rejectedNotice : String := "<p class=\"error\">Invalid username or password</p>\n"

/-- The fields of the login page. -/
def loginFields : String :=
  "<form method=\"post\" action=\"/login\">\n"
    ++ "<label>Username <input name=\"username\" autocomplete=\"username\" required></label>\n"
    ++ "<label>Password <input name=\"password\" type=\"password\" "
    ++ "autocomplete=\"current-password\" required></label>\n"
    ++ "<button type=\"submit\">Sign in</button>\n</form>"

/-- Whether a request comes from someone who is logged in. -/
def isLoggedIn (c : Context) (r : Request) : Op Bool := do
  match r.token? c.cookieName with
  | none => return false
  | some token => return (← Logins.resolve token c.now).isSome

/-- The login page. -/
def loginPage : Handler := fun c r => do
  let rejected ← require (r.queried Text.bool? "error")
  let loggedOut ← require (r.queried Text.bool? "logout")
  if ← perform (isLoggedIn c r) then
    return .redirect dashboardPath
  return .page (Html.page "Sign in" none
    (shownIf (rejected == some true) rejectedNotice
      ++ shownIf (loggedOut == some true) loggedOutNotice ++ loginFields))

/-- The response with a cookie, if the cookie can be sent. -/
def withCookie (r : Response) (cookie : String) : Except Refusal Response :=
  if isFieldValue cookie then .ok (r.withField "set-cookie" cookie) else .error .unsendable

/-- A field of a form that must be there. -/
def formText (form : Form) (name : String) : Except Refusal String := do
  let refusal := Refusal.form (form.map Prod.fst)
  match ← Form.read refusal some form name with
  | some text => return text
  | none => throw refusal

/-- Logs in. -/
def logIn : Handler := fun c r => do
  let form ← require r.form
  let username ← require (formText form "username")
  let password ← require (formText form "password")
  let attempt := Logins.logIn username password c.token c.loginSeconds (r.client.actor none) c.now
  match ← perform (Op.attempt attempt) with
  | .ok (_, session) =>
      require (withCookie (.redirect dashboardPath)
        (Cookie.set c.cookieName session.token (c.loginSeconds * 1000)
          c.settings.auth.secureCookie))
  | .error f =>
      match f.category with
      | .credentials => return .redirect "/login?error=true"
      | .hashing => return .redirect "/login?error=true"
      | .token => return .redirect "/login?error=true"
      | category => throw (.ofCategory category f.message)

/-- Logs out. -/
def logOut : Handler := fun c r => do
  if let some token := r.token? c.cookieName then
    perform (Logins.logOut token (r.client.actor none) c.now)
  require (withCookie (.redirect "/game?logout=true")
    (Cookie.clear c.cookieName c.settings.auth.secureCookie))

end Entrance

namespace EntranceRoute

/-- The page of a path. -/
def ofPath? : List String → Option EntranceRoute
  | [""] => some .home
  | ["game"] => some .game
  | ["login"] => some .login
  | ["logout"] => some .logout
  | _ => none

/-- What a page does, by method. -/
def handlers : EntranceRoute → List (Method × Handler)
  | .home => [(.get, Entrance.home)]
  | .game => [(.get, Entrance.game)]
  | .login => [(.get, Entrance.loginPage), (.post, Entrance.logIn)]
  | .logout => [(.get, Entrance.logOut), (.post, Entrance.logOut)]

end EntranceRoute

end RobotMaze.Web
