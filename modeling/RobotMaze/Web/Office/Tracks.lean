import RobotMaze.Service.Tracks
import RobotMaze.Web.Office.Desk

/-! # The back office: tracks

    * `TrackRoute` are the addresses below `/api/admin/tracks`;
    * `TrackRoute.handlers` — what each of them does, by method. -/

namespace RobotMaze.Web.Office

/-- An address that has to do with tracks. -/
inductive TrackRoute where
  | listing
  | search
  | levels
  | exportAll
  | importOne
  | one (id : String)
  | reactivation (id : String)
  | exportOne (id : String)
  deriving DecidableEq, Repr

/-- The address of a path below `/api/admin/tracks`. -/
def TrackRoute.ofPath? : List String → Option TrackRoute
  | [] => some .listing
  | ["search"] => some .search
  | ["stats"] => some .levels
  | ["export"] => some .exportAll
  | ["import"] => some .importOne
  | [id] => if id.isEmpty then none else some (.one id)
  | [id, "reactivate"] => if id.isEmpty then none else some (.reactivation id)
  | [id, "export"] => if id.isEmpty then none else some (.exportOne id)
  | _ => none

/-- A page of tracks. -/
def listTracks : Handler := fun c r _ => do
  answer (Page.toJson Track.toJson) (Tracks.page (← listing c r))

/-- A track is made from the body. -/
def createTrack : Handler := fun c r p => do
  let input ← require (r.decode NewTrack.decoder)
  answer Track.toJson (Tracks.create input (actor r p) c.now)

/-- The active tracks whose name holds a text. -/
def searchTracks : Handler := fun _ r _ => do
  let term ← require (r.queried some "searchTerm")
  answer (.list Track.toJson) (Tracks.search (term.getD ""))

/-- The number of tracks of each level. -/
def trackLevels : Handler := fun _ _ _ => answer LevelCounts.toJson Tracks.levels

/-- A track. -/
def getTrack (id : String) : Handler := fun _ _ _ => do
  answer Track.toJson (Tracks.get (← require (pathId id)))

/-- The changes to a track as the back office sends them; a description that is given replaces the
    old one. -/
def editOfFields (name gridConfig : Option String) (startX startY : Option Int)
    (heading : Option Heading) (difficulty : Option Int) (description : Option String)
    (isActive : Option Bool) : TrackChange :=
  { name, gridConfig, startX, startY, heading, difficulty, description := description.map some,
    isActive }

/-- Decodes the changes to a track. -/
def trackEditDecoder : Json.Decoder TrackChange :=
  (editOfFields
    <$> .optional "name" .string
    <*> .optional "gridConfig" .string
    <*> .optional "startX" .int32
    <*> .optional "startY" .int32
    <*> .optional "startDirection" Named.decoder
    <*> .optional "difficultyLevel" .int32
    <*> .optional "description" .string
    <*> .optional "isActive" .bool : Json.Record TrackChange).decoder

/-- Changes a track. -/
def updateTrack (id : String) : Handler := fun c r p => do
  let id ← require (pathId id)
  let edit ← require (r.decode trackEditDecoder)
  answer Track.toJson (Tracks.update id edit (actor r p) c.now)

/-- Deactivates a track. -/
def deleteTrack (id : String) : Handler := fun c r p => do
  let id ← require (pathId id)
  done (Tracks.delete id (actor r p) c.now) "Track deleted successfully"

/-- Activates a track again. -/
def reactivateTrack (id : String) : Handler := fun c r p => do
  let id ← require (pathId id)
  answer Track.toJson (Tracks.reactivate id (actor r p) c.now)

/-- A character of the name of a file, or what stands for it. -/
def fileNameChar (c : Char) : Char :=
  if c.isAlphanum || c == '.' || c == '-' || c == '_' then c else '_'

/-- A text as the name of a file. -/
def fileName (text : String) : String := String.ofList (text.toList.map fileNameChar)

/-- The transfer document of a track. -/
def exportTrack (id : String) : Handler := fun c r p => do
  let doc ← perform (Tracks.exportOne (← require (pathId id)) (actor r p) c.now)
  return (Response.json doc.toJson).saved (fileName ("track_" ++ doc.name ++ ".json"))

/-- The transfer documents of all tracks, usually of the active ones only. -/
def exportTracks : Handler := fun c r p => do
  let activeOnly ← require (r.queried Text.bool? "activeOnly")
  let docs ← perform (Tracks.exportAll (activeOnly.getD true) (actor r p) c.now)
  return (Response.json (.list TrackDocument.toJson docs)).saved "tracks.json"

/-- Takes in a transfer document. -/
def importTrack : Handler := fun c r p => do
  let doc ← require (r.decode TrackDocument.decoder)
  answer Track.toJson (Tracks.importOne doc (actor r p) c.now)

/-- What an address does, by method. -/
def TrackRoute.handlers : TrackRoute → List (Method × Handler)
  | .listing => [(.get, listTracks), (.post, createTrack)]
  | .search => [(.get, searchTracks)]
  | .levels => [(.get, trackLevels)]
  | .exportAll => [(.get, exportTracks)]
  | .importOne => [(.post, importTrack)]
  | .one id => [(.get, getTrack id), (.put, updateTrack id), (.delete, deleteTrack id)]
  | .reactivation id => [(.post, reactivateTrack id)]
  | .exportOne id => [(.get, exportTrack id)]

end RobotMaze.Web.Office
