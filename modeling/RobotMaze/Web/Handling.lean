import RobotMaze.Config.Settings
import RobotMaze.Login.Cookie
import RobotMaze.Service.Games
import RobotMaze.Store.Database
import RobotMaze.Text.Blank
import RobotMaze.Web.Form
import RobotMaze.Web.Request

/-! # Clients and handlers

    * `Client` — where a request comes from;
    * `Handling` — what is done for it. -/

/-! ## Clients — where a request comes from

    A request that was passed on names the client's address in its header;
    otherwise it is the address of the connection.

    * `Request.client` is the client, `Client.actor` one who acts from there;
    * `Request.token?` is the login token that a request carries. -/

namespace RobotMaze.Web

/-- Where a request comes from. -/
structure Client where
  ipAddress : Option String
  userAgent : Option String
  deriving DecidableEq, Repr

namespace Client

/-- Someone who acts from there; nobody in particular when no name is given. -/
def actor (c : Client) (username : Option String) : Actor := ⟨username, c.ipAddress, c.userAgent⟩

/-- The client as a player with a screen. -/
def player (c : Client) (screen : Option String) : Games.Client :=
  ⟨c.ipAddress, c.userAgent, screen⟩

end Client

namespace Request

/-- The first field of a name, trimmed, if it is not blank. -/
def filled? (r : Request) (name : String) : Option String :=
  ((r.text? name).map Text.trim).filter fun value => !value.isEmpty

/-- Whether an address says that it is not known. -/
def isUnknown (address : String) : Bool := Text.sameIgnoringAsciiCase address "unknown"

/-- The first known address of a request that was passed on. -/
def forwardedFor? (r : Request) : Option String := do
  let value ← r.filled? "x-forwarded-for"
  ((Text.split ',' value).map Text.trim).find? fun address =>
    !address.isEmpty && !isUnknown address

/-- The address of the client. -/
def clientAddress? (r : Request) : Option String :=
  r.forwardedFor? <|> (r.filled? "x-real-ip").filter (fun address => !isUnknown address)
    <|> r.peer.map IpAddress.render

/-- The client of a request. -/
def client (r : Request) : Client := ⟨r.clientAddress?, r.filled? "user-agent"⟩

/-- The login token among the cookies of a request. -/
def token? (r : Request) (cookieName : String) : Option String :=
  (r.texts "cookie").findSome? fun header => Cookie.find? header cookieName

end Request

/-! ## Handling a request

    A request is handled in atomic steps on the store, and may be refused on the
    way.

    * `perform` does an operation, `require` asks for a part of the request;
    * `Context` is what the site brings along: its settings, the time, the
      random values that a request may use up, and the words for what cannot be
      read. -/

open Time (Instant)

/-- The words in which the libraries that read requests say what is wrong. -/
structure Explanations where
  /-- For a query that is sent to a path. -/
  query : (path query : String) → String
  /-- For a body of JSON that is sent to a path with a method. -/
  json : (method : Method) → (path body : String) → String
  /-- For a path. -/
  path : (path : String) → String
  /-- For a form whose fields have some names.  Any text will do as a value. -/
  form : (names : List String) → String
  deriving Inhabited

/-- What the site brings to a request. -/
structure Context where
  settings : Settings := {}
  explanations : Explanations
  /-- How a new password is hashed. -/
  hashing : Hashing
  now : Instant
  /-- The id of a game session that is opened. -/
  sessionId : String
  /-- The token of a login that is opened. -/
  token : String
  /-- The number that picks one of several tracks. -/
  number : Nat

namespace Context

/-- How long a login lasts, in seconds. -/
def loginSeconds (c : Context) : Int := c.settings.auth.loginSeconds

/-- The name of the login cookie. -/
def cookieName (c : Context) : String := c.settings.auth.cookieName

/-- What a library says about a request that is refused, if it is one that could not be read. -/
def cause? (c : Context) (r : Request) : Refusal → Option String
  | .query => some (c.explanations.query r.path r.query)
  | .malformed => some (c.explanations.json r.method r.path r.body)
  | .mismatch => some (c.explanations.json r.method r.path r.body)
  | .path => some (c.explanations.path r.path)
  | .form names => some (c.explanations.form names)
  | _ => none

end Context

/-- Handles a request, or refuses it. -/
abbrev Handling := ExceptT Refusal (Steps Store)

/-- What is done with a request. -/
abbrev Handler := Context → Request → Handling Response

variable {α : Type}

/-- Does an operation; its failure refuses the request. -/
def perform (op : Op α) : Handling α :=
  ExceptT.mk do
    match ← ExceptT.run op with
    | .ok a => return .ok a
    | .error f => return .error (.ofFailure f)

/-- Asks for something without which the request is refused. -/
def require (x : Except Refusal α) : Handling α := ExceptT.mk (pure x)

/-- The response to a request that has been handled, or refused. -/
def respond (c : Context) (r : Request) (h : Handling Response) : Steps Store Response := do
  match ← ExceptT.run h with
  | .ok response => return response
  | .error refusal => return refusal.response (c.cause? r refusal)

end RobotMaze.Web
