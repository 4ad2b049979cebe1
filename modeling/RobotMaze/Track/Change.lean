import RobotMaze.Track.Basic

/-! # New tracks and changes to tracks

    * `NewTrack` is what a track is made from, `NewTrack.check` looks at its fields;
    * `TrackChange` names the fields of a track that get a new value; its JSON
      form holds these only. -/

namespace RobotMaze

/-- The input for a new track. -/
structure NewTrack where
  name : String
  gridConfig : String
  startX : Int
  startY : Int
  heading : Heading
  difficulty : Option Int
  description : Option String
  deriving DecidableEq, Repr

/-- A new track that passed every rule of its fields. -/
structure CheckedTrack where
  name : String
  grid : Grid
  startX : Int
  startY : Int
  heading : Heading
  difficulty : Int
  description : Option String

namespace NewTrack

/-- The level of a track for which none is given. -/
def defaultDifficulty : Int := 1

/-- Decodes the input for a new track. -/
def decoder : Json.Decoder NewTrack :=
  (NewTrack.mk
    <$> .required "name" .string
    <*> .required "gridConfig" .string
    <*> .required "startX" .int32
    <*> .required "startY" .int32
    <*> .required "startDirection" Named.decoder
    <*> .omittable "difficultyLevel" .int32
    <*> .omittable "description" .string : Json.Record NewTrack).decoder

/-- The input with its name and description trimmed and its grid read; the first rule that it
    breaks is reported. -/
def check (t : NewTrack) : Except Violation CheckedTrack := do
  let name ← Track.checkName t.name
  let grid ← Grid.parse t.gridConfig
  grid.checkStart t.startX t.startY
  let difficulty ← Track.checkDifficulty (t.difficulty.getD defaultDifficulty)
  return {
    name
    grid
    startX := t.startX
    startY := t.startY
    heading := t.heading
    difficulty
    description := Track.cleanDescription t.description }

end NewTrack

/-- The fields of a track that get a new value.  A description may also be cleared. -/
structure TrackChange where
  name : Option String := none
  gridConfig : Option String := none
  startX : Option Int := none
  startY : Option Int := none
  heading : Option Heading := none
  difficulty : Option Int := none
  description : Option (Option String) := none
  isActive : Option Bool := none
  deriving DecidableEq, Repr

namespace TrackChange

/-- Whether the start cell must be looked at again. -/
def touchesLayout (c : TrackChange) : Bool :=
  c.gridConfig.isSome || c.startX.isSome || c.startY.isSome

/-- The named fields as an object. -/
def toJson (c : TrackChange) : Json :=
  .object (List.flatten [
    (c.name.map fun v => ("name", Json.string v)).toList,
    (c.gridConfig.map fun v => ("gridConfig", Json.string v)).toList,
    (c.startX.map fun v => ("startX", Json.whole v)).toList,
    (c.startY.map fun v => ("startY", Json.whole v)).toList,
    (c.heading.map fun v => ("startDirection", Named.toJson v)).toList,
    (c.difficulty.map fun v => ("difficultyLevel", Json.whole v)).toList,
    (c.description.map fun v => ("description", Json.optional .string v)).toList,
    (c.isActive.map fun v => ("isActive", Json.bool v)).toList])

/-- A description that may be cleared: by `null`, while a missing one stays as it is. -/
def clearable : Json.Record (Option (Option String)) :=
  .field "description" (fun r => (Json.Decoder.nullable .string r).map some) (.ok none)
    (.error .mismatch)

/-- Decodes the named fields. -/
def decoder : Json.Decoder TrackChange :=
  (TrackChange.mk
    <$> .optional "name" .string
    <*> .optional "gridConfig" .string
    <*> .optional "startX" .int32
    <*> .optional "startY" .int32
    <*> .optional "startDirection" Named.decoder
    <*> .optional "difficultyLevel" .int32
    <*> clearable
    <*> .optional "isActive" .bool : Json.Record TrackChange).decoder

end TrackChange

end RobotMaze
