import RobotMaze.Track.Change

/-! # Transfer documents — tracks on their way between stores

    A document holds a track without its id and its dates.

    * `TrackDocument.ofTrack` writes one, `TrackDocument.toNewTrack` is the input
      for a track made from one;
    * `freeName` is the name under which a track is taken in: its own, or with
      the first number in brackets that no other track has. -/

namespace RobotMaze

open Time (Instant)

/-- A track to be taken to another store. -/
structure TrackDocument where
  name : String
  gridConfig : String
  startX : Int
  startY : Int
  heading : Heading
  difficulty : Int
  description : Option String
  version : String
  exportedAt : Option Instant
  deriving DecidableEq, Repr

namespace TrackDocument

/-- The version of the documents written here. -/
def currentVersion : String := "1.0"

/-- The document of a track. -/
def ofTrack (t : Track) (exportedAt : Instant) : TrackDocument :=
  { name := t.name
    gridConfig := t.gridConfig
    startX := t.startX
    startY := t.startY
    heading := t.heading
    difficulty := t.difficulty
    description := t.description
    version := currentVersion
    exportedAt := some exportedAt }

/-- The input for a track made from a document. -/
def toNewTrack (d : TrackDocument) : NewTrack :=
  { name := d.name
    gridConfig := d.gridConfig
    startX := d.startX
    startY := d.startY
    heading := d.heading
    difficulty := some d.difficulty
    description := d.description }

/-- Only documents of the current version are taken. -/
def checkVersion (d : TrackDocument) : Except Violation Unit :=
  if d.version = currentVersion then .ok () else .error (.unknownExportVersion d.version)

/-- A document as an object. -/
def toJson (d : TrackDocument) : Json :=
  .object [
    ("name", .string d.name),
    ("gridConfig", .string d.gridConfig),
    ("startX", .whole d.startX),
    ("startY", .whole d.startY),
    ("startDirection", Named.toJson d.heading),
    ("difficultyLevel", .whole d.difficulty),
    ("description", .optional .string d.description),
    ("exportVersion", .string d.version),
    ("exportDate", .optional Instant.toJson d.exportedAt)]

/-- Decodes a document. -/
def decoder : Json.Decoder TrackDocument :=
  (TrackDocument.mk
    <$> .required "name" .string
    <*> .required "gridConfig" .string
    <*> .required "startX" .int32
    <*> .required "startY" .int32
    <*> .required "startDirection" Named.decoder
    <*> .defaulted "difficultyLevel" .int32 NewTrack.defaultDifficulty
    <*> .omittable "description" .string
    <*> .defaulted "exportVersion" .string currentVersion
    <*> .omittable "exportDate" Instant.exportDecoder : Json.Record TrackDocument).decoder

end TrackDocument

/-- A name with a number in brackets. -/
def numberedName (base : String) (n : Int) : String := base ++ " (" ++ toString n ++ ")"

/-- The greatest number of 32 bits. -/
def maxNumber : Int := 2147483647

/-- The number after another one.  The counter has 32 bits and comes round: after the greatest
    number it goes on with the least one. -/
def numberAfter (n : Int) : Int := if n = maxNumber then -2147483648 else n + 1

/-- The first free name with a number, of so many numbers from `n` on. -/
def freeNumbered? (taken : List String) (base : String) : Nat → Int → Option String
  | 0, _ => none
  | count + 1, n =>
      if taken.contains (numberedName base n) then
        freeNumbered? taken base count (numberAfter n)
      else some (numberedName base n)

/-- The base if it is free, else the base with the first free number from one on.  One number more
    is tried than there are taken names; if all of them are taken, so are all numbers that there
    are, and the search would go round for ever. -/
def freeName? (taken : List String) (base : String) : Option String :=
  if taken.contains base then freeNumbered? taken base (taken.length + 1) 1 else some base

/-- The name that is tried for a base.  The base itself stands for the name of a search that would
    go on for ever. -/
def freeName (taken : List String) (base : String) : String := (freeName? taken base).getD base

end RobotMaze
