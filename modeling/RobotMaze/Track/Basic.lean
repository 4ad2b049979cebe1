import RobotMaze.Grid
import RobotMaze.Robot.Heading
import RobotMaze.Text.Blank
import RobotMaze.Time.Printer

/-! # Tracks — the levels of the game

    A track is a grid with a start cell and a start heading.  It keeps its grid
    as text; `Track.grid` reads it.

    * `Track.checkName`, `Track.checkDifficulty` — the rules of its fields;
    * `Track.toJson`, `Track.decoder` — its JSON form. -/

namespace RobotMaze

open Time (Instant)

/-- A level of the game. -/
structure Track where
  id : Int
  name : String
  gridConfig : String
  startX : Int
  startY : Int
  heading : Heading
  createdAt : Instant
  updatedAt : Instant
  createdBy : Option String
  isActive : Bool
  difficulty : Int
  description : Option String
  deriving DecidableEq, Repr

namespace Track

/-- The grid of a track. -/
def grid (t : Track) : Except Violation Grid := Grid.parse t.gridConfig

/-- The start cell. -/
def start (t : Track) : Position := ⟨t.startX, t.startY⟩

/-- A name without the white space around it; it must not be empty or too long. -/
def checkName (name : String) : Except Violation String :=
  let name := Text.trim name
  if name.isEmpty then .error .trackNameMissing
  else if maxTrackName < name.length then .error .trackNameTooLong
  else .ok name

/-- A difficulty level must lie within its bounds. -/
def checkDifficulty (level : Int) : Except Violation Int :=
  if minDifficulty ≤ level ∧ level ≤ maxDifficulty then .ok level
  else .error .difficultyOutOfRange

/-- A description without the white space around it; an empty one is none. -/
def cleanDescription (description : Option String) : Option String :=
  (description.map Text.trim).filter fun d => !d.isEmpty

/-- A track as an object. -/
def toJson (t : Track) : Json :=
  .object [
    ("id", .whole t.id),
    ("name", .string t.name),
    ("gridConfig", .string t.gridConfig),
    ("startX", .whole t.startX),
    ("startY", .whole t.startY),
    ("startDirection", Named.toJson t.heading),
    ("createdAt", t.createdAt.toJson),
    ("updatedAt", t.updatedAt.toJson),
    ("createdBy", .optional .string t.createdBy),
    ("isActive", .bool t.isActive),
    ("difficultyLevel", .whole t.difficulty),
    ("description", .optional .string t.description)]

/-- Decodes a track. -/
def decoder : Json.Decoder Track :=
  (Track.mk
    <$> .required "id" .int64
    <*> .required "name" .string
    <*> .required "gridConfig" .string
    <*> .required "startX" .int32
    <*> .required "startY" .int32
    <*> .required "startDirection" Named.decoder
    <*> .required "createdAt" Instant.decoder
    <*> .required "updatedAt" Instant.decoder
    <*> .optional "createdBy" .string
    <*> .required "isActive" .bool
    <*> .required "difficultyLevel" .int32
    <*> .optional "description" .string : Json.Record Track).decoder

end Track

end RobotMaze
