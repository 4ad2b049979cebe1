import RobotMaze.Service.AuditLog
import RobotMaze.Store.Tracks
import RobotMaze.Track.Transfer

/-! # Tracks as a service

    Every change of a track is recorded in the audit log.

    * `create`, `update`, `delete`, `reactivate` — changes; deleting deactivates;
    * `get`, `page`, `search`, … — reading;
    * `exportOne`, `exportAll`, `importOne` — transfer documents. -/

namespace RobotMaze.Tracks

open Time (Instant)

/-- The name of tracks in the audit log. -/
def resource : String := "TRACK"

/-- Starts the event of an action on a track. -/
def event (a : Actor) (action : String) (kind : AuditAction) (t : Track) : AuditEvent :=
  (a.event action kind resource).onResource (toString t.id) t.name

/-! ## Reading -/

/-- The tracks of rows. -/
def readAll (rows : List TrackRow) : Op (List Track) := Op.ofRead (rows.mapM TrackRow.read)

/-- A track. -/
def get (id : Int) : Op Track := do
  match ← Op.query (Database.trackById id) with
  | some row => Op.ofRead row.read
  | none => throw (.notFound .track (toString id))

/-- A track, if it is active. -/
def getActive (id : Int) : Op Track := do
  let t ← get id
  if t.isActive then return t else throw (.notFound .track (toString id))

/-- One page of all tracks. -/
def page (p : PageRequest) : Op (Page Track) := do
  let total ← Op.query Database.countTracks
  let rows ← Op.queryRead (Database.pageOfTracks p)
  return Page.new (← readAll rows) p total

/-- All tracks. -/
def all : Op (List Track) := do
  readAll (← Op.query Database.allTracks)

/-- The active tracks. -/
def active : Op (List Track) := do
  readAll (← Op.query Database.activeTracks)

/-- One of the rows, chosen by a number. -/
def choose (number : Nat) (rows : List TrackRow) : Option TrackRow :=
  rows[number % rows.length]?

/-- The track of a chosen row. -/
def readChosen (row : Option TrackRow) : Op (Option Track) := Op.ofRead (row.mapM TrackRow.read)

/-- An active track chosen by a number. -/
def random (number : Nat) : Op (Option Track) := do
  readChosen (← Op.query fun db => choose number db.activeTracks)

/-- An active track chosen by a number, and only if there is no other the excluded one. -/
def randomExcept (excluded : Int) (number : Nat) : Op (Option Track) := do
  match ← Op.query fun db => choose number (db.activeTracksExcept excluded) with
  | some row => readChosen (some row)
  | none => random number

/-- An active track chosen by a number, where one may be excluded. -/
def pick (excluded : Option Int) (number : Nat) : Op (Option Track) :=
  match excluded with
  | some id => randomExcept id number
  | none => random number

/-- The active tracks whose name contains a term, newest first. -/
def search (term : String) : Op (List Track) := do
  readAll (← Op.query (Database.searchTracks term))

/-- The active tracks of a level. -/
def ofLevel (level : Int) : Op (List Track) := do
  readAll (← Op.query (Database.tracksOfLevel level))

/-- Whether no active track has a name, apart from one track. -/
def isNameAvailable (name : String) (except : Option Int) : Op Bool := do
  return (← Op.query (Database.countTrackName name (except.getD (-1)))) == 0

/-- The number of active tracks. -/
def countActive : Op Nat := Op.query Database.countActiveTracks

/-- The number of tracks. -/
def count : Op Nat := Op.query Database.countTracks

/-- The numbers of active tracks by level. -/
def levels : Op LevelCounts := do
  let counts ← Op.query Database.countTracksByLevel
  return ⟨counts.foldl (fun sum c => sum + c.2) 0, counts⟩

/-! ## Changes -/

/-- Stores a track that passed the rules of its fields. -/
def store (t : CheckedTrack) (actor : Actor) (now : Instant) : Op Track := do
  let row ← Op.change (Database.insertTrack t actor.username now)
  Op.ofRead row.read

/-- Fails if an active track has the name, apart from one track. -/
def requireName (name : String) (except : Option Int) (taken : Conflict) : Op Unit := do
  if !(← isNameAvailable name except) then
    throw (.conflict taken)

/-- Creates a track whose name no active track has. -/
def create (input : NewTrack) (actor : Actor) (now : Instant) : Op Track := do
  let checked ← Op.ofCheck input.check
  requireName checked.name none .trackNameTaken
  let t ← store checked actor now
  AuditLog.note (event actor "Track created" .create t) now
  return t

/-- The row after a change, given the checked name and grid. -/
def changeRow (c : TrackChange) (name : Option String) (grid : Option Grid) (now : Instant)
    (r : TrackRow) : TrackRow :=
  { r with
    name := name.getD r.name
    gridConfig := (grid.map Grid.render).getD r.gridConfig
    startX := c.startX.getD r.startX
    startY := c.startY.getD r.startY
    heading := c.heading.getD r.heading
    difficulty := c.difficulty.getD r.difficulty
    description := match c.description with
      | some description => Track.cleanDescription description
      | none => r.description
    isActive := match c.isActive with
      | some isActive => flag isActive
      | none => r.isActive
    updatedAt := now.stamp }

/-- Whether the change of a track needs its name to be free: a new name, or the activation of an
    inactive track. -/
def needsName (c : TrackChange) (name : Option String) (current : Track) : Bool :=
  let willBeActive := c.isActive.getD current.isActive
  willBeActive && (name.isSome || !current.isActive)

/-- Checks the start cell on the new grid, or on the old one where that stays. -/
def checkLayout (c : TrackChange) (grid : Option Grid) (current : Track) : Except Violation Unit :=
  if c.touchesLayout then do
    let layout ← match grid with
      | some grid => pure grid
      | none => current.grid
    layout.checkStart (c.startX.getD current.startX) (c.startY.getD current.startY)
  else .ok ()

/-- Checks the fields of a change; returns the new name and the new grid. -/
def checkChange (id : Int) (c : TrackChange) (current : Track) :
    Op (Option String × Option Grid) := do
  let name ← Op.ofCheck (c.name.mapM Track.checkName)
  if needsName c name current then
    requireName (name.getD current.name) (some id) .trackNameTaken
  let grid ← Op.ofCheck (c.gridConfig.mapM Grid.parse)
  Op.ofCheck (checkLayout c grid current)
  let _ ← Op.ofCheck (c.difficulty.mapM Track.checkDifficulty)
  return (name, grid)

/-- Changes fields of a track.  The last active track cannot be deactivated. -/
def update (id : Int) (c : TrackChange) (actor : Actor) (now : Instant) : Op Track := do
  let current ← get id
  let (name, grid) ← checkChange id c current
  if c = {} then
    return current
  let deactivates := current.isActive && !c.isActive.getD current.isActive
  let condition := fun db row => !deactivates || Database.leavesActiveTrack db row
  let changed ← Op.change (Database.modifyTrack id condition (changeRow c name grid now))
  if changed = 0 then
    if deactivates then throw (.conflict .lastTrackDeactivated)
    else throw (.notFound .track (toString id))
  let updated ← get id
  AuditLog.note ((event actor "Track updated" .update updated).withDetails c.toJson.render) now
  return updated

/-- Deactivates a track.  The last active one stays. -/
def delete (id : Int) (actor : Actor) (now : Instant) : Op Unit := do
  let t ← get id
  if !t.isActive then
    return ()
  let condition := fun db row => Database.trackIsActive row && Database.leavesActiveTrack db row
  let changed ← Op.change (Database.modifyTrack id condition fun r =>
    { r with isActive := 0, updatedAt := now.stamp })
  if changed = 0 then
    if (← get id).isActive then throw (.conflict .lastTrackDeleted)
    else return ()
  AuditLog.note (event actor "Track deleted" .delete t) now

/-- Activates a track, if no active track has its name. -/
def reactivate (id : Int) (actor : Actor) (now : Instant) : Op Track := do
  let t ← get id
  if t.isActive then
    return t
  requireName t.name (some id) .activeTrackHoldsName
  let _ ← Op.change (Database.modifyTrack id (fun _ _ => true) fun r =>
    { r with isActive := 1, updatedAt := now.stamp })
  AuditLog.note (event actor "Track reactivated" .update t) now
  get id

/-! ## Transfer -/

/-- The transfer document of a track. -/
def exportOne (id : Int) (actor : Actor) (now : Instant) : Op TrackDocument := do
  let t ← get id
  AuditLog.note (event actor "Track exported" .exported t) now
  return .ofTrack t now

/-- The written form of a truth value. -/
def boolText (b : Bool) : String := if b then "true" else "false"

/-- The transfer documents of all tracks, or of the active ones. -/
def exportAll (activeOnly : Bool) (actor : Actor) (now : Instant) : Op (List TrackDocument) := do
  let tracks ← if activeOnly then active else all
  let details := toString tracks.length ++ " tracks, activeOnly=" ++ boolText activeOnly
  AuditLog.note ((actor.event "Tracks exported" .exported resource).withDetails details) now
  return tracks.map fun t => .ofTrack t now

/-- Takes in a track from a transfer document, under its own name or the first free one made from
    it. -/
def importOne (doc : TrackDocument) (actor : Actor) (now : Instant) : Op Track := do
  Op.ofCheck doc.checkVersion
  let input := doc.toNewTrack
  let base ← Op.ofCheck (Track.checkName input.name)
  let taken := (← active).map Track.name
  let checked ← Op.ofCheck { input with name := freeName taken base }.check
  let t ← store checked actor now
  AuditLog.note (event actor "Track imported" .imported t) now
  return t

end RobotMaze.Tracks
