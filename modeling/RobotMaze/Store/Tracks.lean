import RobotMaze.Store.Database
import RobotMaze.Text.Pattern

/-! # The table of tracks

    Names are unique among active tracks only.  A track can be deactivated only
    while another one is active; the condition is part of the change itself, so
    that two changes at once cannot both pass. -/

namespace RobotMaze.Database

open Time (Instant)

/-- Whether a row counts as active in a search. -/
def trackIsActive (r : TrackRow) : Bool := r.isActive == 1

/-- An active row must not share its name with another active one, and the level must lie within
    its bounds. -/
def trackIsAcceptable (r : TrackRow) (others : List TrackRow) : Bool :=
  minDifficulty ≤ r.difficulty && r.difficulty ≤ maxDifficulty
    && !(trackIsActive r && others.any fun o => trackIsActive o && o.name == r.name)

/-- Whether an active track is left when this row is inactive. -/
def leavesActiveTrack (db : Database) (r : TrackRow) : Bool :=
  r.isActive == 0 || (db.tracks.others r.id).any trackIsActive

/-- The row of a new track. -/
def newTrackRow (t : CheckedTrack) (createdBy : Option String) (now : Instant) (id : Int) :
    TrackRow :=
  { id
    name := t.name
    gridConfig := t.grid.render
    startX := t.startX
    startY := t.startY
    heading := t.heading
    createdAt := now.stamp
    updatedAt := now.stamp
    createdBy
    isActive := 1
    difficulty := t.difficulty
    description := t.description }

/-- Adds a track. -/
def insertTrack (t : CheckedTrack) (createdBy : Option String) (now : Instant) (db : Database) :
    Except Failure (TrackRow × Database) := do
  let (row, tracks) ← db.tracks.insert (newTrackRow t createdBy now) trackIsAcceptable
  return (row, { db with tracks })

/-- Changes a track that satisfies a condition. -/
def modifyTrack (id : Int) (condition : Database → TrackRow → Bool) (change : TrackRow → TrackRow)
    (db : Database) : Except Failure (Nat × Database) := do
  let (n, tracks) ← db.tracks.modify id (condition db) change trackIsAcceptable
  return (n, { db with tracks })

/-- The row of a track. -/
def trackById (id : Int) (db : Database) : Option TrackRow := db.tracks.find? id

/-- All tracks. -/
def allTracks (db : Database) : List TrackRow := db.tracks.rows

/-- The active tracks. -/
def activeTracks (db : Database) : List TrackRow := db.tracks.rows.filter trackIsActive

/-- The active tracks other than one. -/
def activeTracksExcept (id : Int) (db : Database) : List TrackRow :=
  db.activeTracks.filter fun r => r.id != id

/-- The active tracks whose name contains a term, newest first; a blank term is in every name. -/
def searchTracks (term : String) (db : Database) : List TrackRow :=
  let term := Text.trim term
  let found :=
    if term.isEmpty then db.activeTracks
    else db.activeTracks.filter fun r => Text.Pattern.contains term r.name
  newestFirst TrackRow.createdAt found

/-- The active tracks of a level. -/
def tracksOfLevel (level : Int) (db : Database) : List TrackRow :=
  db.activeTracks.filter fun r => r.difficulty == level

/-- The number of active tracks of a name, apart from one track. -/
def countTrackName (name : String) (except : Int) (db : Database) : Nat :=
  db.activeTracks.countP fun r => r.name == Text.trim name && r.id != except

/-- The number of active tracks. -/
def countActiveTracks (db : Database) : Nat := db.activeTracks.length

/-- The number of tracks. -/
def countTracks (db : Database) : Nat := db.tracks.rows.length

/-- What a listing of tracks can be sorted by; anything else means by id. -/
def trackSortKey (sortBy : String) (r : TrackRow) : SortKey :=
  match sortBy with
  | "name" => .text r.name
  | "difficultyLevel" => .number r.difficulty
  | "difficulty_level" => .number r.difficulty
  | "createdAt" => .text r.createdAt
  | "created_at" => .text r.createdAt
  | "updatedAt" => .text r.updatedAt
  | "updated_at" => .text r.updatedAt
  | _ => .number r.id

/-- The tracks of a page. -/
def pageOfTracks (p : PageRequest) (db : Database) : Read (List TrackRow) :=
  pageOf p (sortedBy (trackSortKey p.sortBy) p.order db.tracks.rows)

/-- The numbers of active tracks by level. -/
def countTracksByLevel (db : Database) : List (Int × Nat) :=
  Keyed.ofList (db.activeTracks.map fun r =>
    (r.difficulty, db.activeTracks.countP fun o => o.difficulty == r.difficulty))

end RobotMaze.Database
