import RobotMaze.Service.Reports
import RobotMaze.Web.Handling

/-! # The public game

    What players may do without an account: look up tracks, play a session and
    report on it, run a program.

    * `PlayRoute` are the addresses of the game;
    * `PlayRoute.handlers` — what each of them does, by method. -/

namespace RobotMaze.Web

/-- An address of the public game. -/
inductive PlayRoute where
  | trackOverview
  | randomTrack
  | startSession
  | session (id : String)
  | run
  | figures
  | quickSession
  | totals
  /-- A random track, for older clients. -/
  | anyTrack
  | track (id : String)
  deriving DecidableEq, Repr

namespace PlayRoute

/-- The address of a path below `/api/game`. -/
def ofGamePath? : List String → Option PlayRoute
  | ["tracks", "debug"] => some .trackOverview
  | ["track", "random"] => some .randomTrack
  | ["session", "start"] => some .startSession
  | ["session", id] => if id.isEmpty then none else some (.session id)
  | ["run"] => some .run
  | ["stats", "basic"] => some .figures
  | ["session"] => some .quickSession
  | ["stats"] => some .totals
  | _ => none

/-- The address of a path below `/api/track`. -/
def ofTrackPath? : List String → Option PlayRoute
  | ["random"] => some .anyTrack
  | [id] => if id.isEmpty then none else some (.track id)
  | _ => none

end PlayRoute

namespace Play

/-- The refusal when there is no track to play. -/
def noTracks : Refusal := .unknown "No tracks available"

/-- A track in an overview. -/
def briefJson (t : Track) : Json :=
  .object [("id", .whole t.id), ("name", .string t.name), ("isActive", .bool t.isActive)]

/-- All tracks, and how many of them are active. -/
def trackOverview : Handler := fun _ _ => do
  let tracks ← perform Tracks.all
  return .json (.object [
    ("totalTracks", .count tracks.length),
    ("activeTracks", .count (tracks.filter Track.isActive).length),
    ("tracks", .list briefJson tracks)])

/-- A track as an object; when another one was to be avoided, it says whether it is different. -/
def differentJson (t : Track) (excluded : Option Int) : Json :=
  match t.toJson, excluded with
  | .object members, some id =>
      .object (members ++ [("isDifferent", .bool (t.id != id)), ("excludedId", .whole id)])
  | j, _ => j

/-- An active track picked at random, if possible another one than the one named. -/
def randomTrack : Handler := fun c r => do
  let excluded ← require (r.queried Text.int64? "excludeId")
  match ← perform (Tracks.pick excluded c.number) with
  | some t => return .json (differentJson t excluded)
  | none => throw noTracks

/-- An active track picked at random. -/
def anyTrack : Handler := fun c _ => do
  match ← perform (Tracks.random c.number) with
  | some t => return .json t.toJson
  | none => throw noTracks

/-- An active track. -/
def track (id : String) : Handler := fun _ _ => do
  return .json (← perform (Tracks.getActive (← require (pathId id)))).toJson

/-- A track and the screen of its player. -/
structure StartRequest where
  trackId : Int
  screen : Option String

/-- Decodes the request for a session. -/
def StartRequest.decoder : Json.Decoder StartRequest :=
  (StartRequest.mk
    <$> .required "trackId" .int64
    <*> .omittable "screenResolution" .string : Json.Record StartRequest).decoder

/-- Opens a session. -/
def startSession : Handler := fun c r => do
  let wanted ← require (r.decode StartRequest.decoder)
  let s ← perform (Games.start wanted.trackId c.sessionId (r.client.player wanted.screen) c.now)
  return .json (.object [
    ("sessionId", .string s.sessionId),
    ("trackId", .whole s.trackId),
    ("totalCellsRequired", .whole s.totalCells),
    ("message", .string "Session started successfully")])

/-- Takes in a report on a session. -/
def updateSession (id : String) : Handler := fun c r => do
  let id ← require (pathText id)
  let report ← require (r.decode ProgressReport.decoder)
  let s ← perform (Games.update id report c.now)
  return .json (.object [
    ("message", .string "Session updated successfully"),
    ("sessionId", .string s.sessionId)])

/-- A session as an object that says how much of the track was visited. -/
def sessionJson (s : GameSession) : Json :=
  match s.toJson with
  | .object members => .object (members ++ [("completionPercentage", .float s.completion)])
  | j => j

/-- A session. -/
def session (id : String) : Handler := fun _ _ => do
  return .json (sessionJson (← perform (Games.get (← require (pathText id)))))

/-- A track and a program for it. -/
structure RunRequest where
  trackId : Int
  moves : List Move

/-- Decodes the request for a run. -/
def RunRequest.decoder : Json.Decoder RunRequest :=
  (RunRequest.mk
    <$> .required "trackId" .int64
    <*> .required "moves" Program.decoder : Json.Record RunRequest).decoder

/-- Runs a program. -/
def run : Handler := fun _ r => do
  let wanted ← require (r.decode RunRequest.decoder)
  return .json (← perform (Games.runProgram wanted.trackId wanted.moves)).toJson

/-- The figures that players may see. -/
def figures : Handler := fun c _ => do
  return .json (← perform (Reports.players c.now)).toJson

/-- A game that is reported in one call. -/
structure QuickRequest where
  trackId : Int
  completed : Bool
  seconds : Int
  moves : Int

/-- Decodes the report of a game. -/
def QuickRequest.decoder : Json.Decoder QuickRequest :=
  (QuickRequest.mk
    <$> .required "trackId" .int64
    <*> .defaulted "completed" .bool false
    <*> .defaulted "timeSpent" .int64 0
    <*> .defaulted "moves" .int64 0 : Json.Record QuickRequest).decoder

/-- Stores a game that is reported in one call. -/
def quickSession : Handler := fun c r => do
  let game ← require (r.decode QuickRequest.decoder)
  let s ← perform (Games.recordQuick game.trackId game.completed game.seconds game.moves
    (r.client.player none) c.now)
  return .json (.object [
    ("success", .bool true),
    ("sessionId", .string s.sessionId),
    ("message", .string "Game session saved successfully")])

/-- The number of games. -/
def totals : Handler := fun _ _ => do
  return .json (← perform Games.totals).toJson

end Play

/-- What an address of the game does, by method. -/
def PlayRoute.handlers : PlayRoute → List (Method × Handler)
  | .trackOverview => [(.get, Play.trackOverview)]
  | .randomTrack => [(.get, Play.randomTrack)]
  | .startSession => [(.post, Play.startSession)]
  | .session id => [(.get, Play.session id), (.put, Play.updateSession id)]
  | .run => [(.post, Play.run)]
  | .figures => [(.get, Play.figures)]
  | .quickSession => [(.post, Play.quickSession)]
  | .totals => [(.get, Play.totals)]
  | .anyTrack => [(.get, Play.anyTrack)]
  | .track id => [(.get, Play.track id)]

end RobotMaze.Web
