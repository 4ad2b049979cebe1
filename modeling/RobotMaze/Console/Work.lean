import RobotMaze.Config.Loading
import RobotMaze.Console.Command
import RobotMaze.Console.Disk
import RobotMaze.Console.Fault
import RobotMaze.Service.Logins
import RobotMaze.Service.Reports
import RobotMaze.Service.Tracks
import RobotMaze.Web.Listing

/-! # Work — carrying out commands

    A command is carried out in atomic steps on the store that the settings name,
    between which others may work on that store.  What it has to show is one text,
    shown at the end; what it has done to the store stays, also when it does not
    succeed.

    * `Command.perform` is what each command does;
    * `Invocation.settings` are the settings that it runs with;
    * `Invocation.run` carries out a command in its surroundings;
    * `reply` is the answer to the words of a command line. -/

namespace RobotMaze.Console

open Time (Instant)

/-- What a command works on. -/
structure Bench where
  store : Store
  disk : Disk

/-- Work on a bench in atomic steps, which may fail. -/
abbrev Work := ExceptT Fault (Steps Bench)

namespace Work

variable {α : Type}

/-- The same steps, taken on the store of a bench. -/
def stepsOnStore : Steps Store α → Steps Bench α
  | .done a => .done a
  | .step change next =>
      .step (fun b => { b with store := change b.store }) fun b => stepsOnStore (next b.store)

/-- An operation on the store. -/
def onStore (op : Op α) (fault : Failure → Fault) : Work α :=
  ExceptT.mk do
    match ← stepsOnStore (ExceptT.run op) with
    | .ok a => return .ok a
    | .error f => return .error (fault f)

/-- An operation on the store, the failure of which says enough. -/
def perform (op : Op α) : Work α := onStore op .store

/-- A value, unless it is bad. -/
def require {ε : Type} (x : Except ε α) (fault : ε → Fault) : Work α :=
  match x with
  | .ok a => return a
  | .error e => throw (fault e)

/-- A text with a line break at its end. -/
def asLines (text : String) : String := if text.endsWith "\n" then text else text ++ "\n"

/-- Writes a text to a file; without a file it is shown. -/
def writeOrShow (file : Option String) (text : String) : Work String :=
  match file with
  | none => return asLines text
  | some path =>
      ExceptT.mk (Steps.atomic fun b =>
        match b.disk.write? path text with
        | some disk => (.ok "", { b with disk })
        | none => (.error (.writing path), b))

/-- The text of a file. -/
def readFile (path : String) : Work String :=
  ExceptT.mk (Steps.atomic fun b =>
    match b.disk.read? path with
    | some text => (.ok text, b)
    | none => (.error (.reading path), b))

end Work

open Work

/-! ## Commands -/

/-- What a value of the program looks like in the output. -/
def shown (format : OutputFormat) (j : Json) : String := render format j ++ "\n"

/-- The role that a word names. -/
def roleOf (word : String) : Work Role := require (choice "role" word) .choice

/-- The tracks of a file to import: one, or a list of them. -/
def tracksOf (text : String) : Except Fault (List TrackDocument) :=
  match Json.parse? text with
  | none => .error .notJson
  | some j =>
      let found := match j with
        | .array _ => Json.decodeValue (.list TrackDocument.decoder) j
        | _ => (Json.decodeValue TrackDocument.decoder j).map fun doc => [doc]
      match found with
      | .ok docs => .ok docs
      | .error _ => .error .noTracks

/-- Imports tracks, one after the other. -/
def importAll (now : Instant) : List TrackDocument → Work (List Track)
  | [] => return []
  | doc :: rest => do
      let t ← onStore (Tracks.importOne doc .system now) (.importing doc.name)
      return t :: (← importAll now rest)

/-- The entries of the audit log that are wanted. -/
def AuditChoice.filter (c : AuditChoice) : Work Database.AuditFilter := do
  return {
    username := c.username
    kind := ← c.action.mapM fun word => require (choice "action" word) .choice
    resourceType := c.resourceType
    since := ← require (Web.dateBoundOpt .lower c.since) .date
    upTo := ← require (Web.dateBoundOpt .upper c.upTo) .date }

/-- Random bytes for the hashes that a command makes. -/
structure Salts where
  /-- For the password of the first account. -/
  firstAdmin : List UInt8
  /-- For the password that the command gives. -/
  given : List UInt8

/-- What a command does once its store is open, and what it has to show. -/
def Command.perform (settings : Settings) (format : OutputFormat) (salts : Salts) (now : Instant) :
    Command → Work String
  | .serve _ _ => return ""
  | .migrate => do
      let users ← Work.perform Users.count
      let tracks ← Work.perform Tracks.all
      return shown format (.object [("database", .string settings.database.path),
        ("users", .count users), ("tracks", .count tracks.length)])
  | .createUser username email password fullName role => do
      let role ← roleOf role
      let u ← Work.perform (Users.create ⟨username, email, password, fullName, role, true⟩
        (settings.auth.hashing salts.given) .system now)
      return shown format u.toJson
  | .listUsers search role page size => do
      let role ← role.mapM roleOf
      let request := ((PageRequest.new page (size.getD settings.general.pageSize)).capped
        settings.general.maxPageSize).sorted "created_at" .descending
      let users ← Work.perform (Users.page ⟨search, role⟩ request)
      return shown format (users.toJson User.toJson)
  | .setPassword username password => do
      match ← Work.perform (Users.find username) with
      | none => throw (.noUser username)
      | some u =>
          Work.perform (Users.changePassword u.id password (settings.auth.hashing salts.given)
            .system now)
          return shown format
            (.object [("passwordChanged", .bool true), ("username", .string u.username)])
  | .listTracks => do
      return shown format (.list Track.toJson (← Work.perform Tracks.all))
  | .exportTracks id all file => do
      let j ← match id with
        | some id => TrackDocument.toJson <$> Work.perform (Tracks.exportOne id .system now)
        | none =>
            Json.list TrackDocument.toJson <$> Work.perform (Tracks.exportAll (!all) .system now)
      writeOrShow file j.renderIndented
  | .importTracks file => do
      let docs ← require (tracksOf (← readFile file)) id
      return shown format (.list Track.toJson (← importAll now docs))
  | .recentAudit limit => do
      return shown format (.list AuditEntry.toJson (← Work.perform (AuditLog.recent limit)))
  | .exportAudit wanted file => do
      let lines ← Work.perform (AuditLog.exportLines (← wanted.filter))
      writeOrShow file lines
  | .report => do
      return shown format (← Work.perform (Reports.report now)).toJson
  | .daily days commas => do
      let rows ← Work.perform (Reports.days days now)
      return if commas then dailyCsv rows else shown format (.list DayFigures.toJson rows)

/-! ## The store of a command -/

/-- The store that settings name, with its audit trail, and the disk on which both were made; or
    why there is no store, and the disk all the same. -/
def openStore (settings : Settings) (d : Disk) : Except (Disk.Unopened × Disk) (Store × Disk) :=
  match d.openStore settings.database.path with
  | .error reason => .error (reason, d)
  | .ok (database, d) =>
      match settings.database.auditTrail? with
      | none => .ok ({ database }, d)
      | some folder =>
          match d.trail? folder with
          | none => .error (.blocked, d)
          | some (trail, d) => .ok ({ database, trail }, d)

/-- Puts a store and its audit trail back on the disk. -/
def keepStore (settings : Settings) (s : Store) (d : Disk) : Disk :=
  let d := d.keep settings.database.path s.database
  match settings.database.auditTrail? with
  | none => d
  | some folder => d.keepTrail folder s.trail

/-- Makes sure that there is an administrator, and forgets logins that have ended. -/
def prepare (settings : Settings) (salts : Salts) (now : Instant) : Work Unit := do
  let _ ← onStore
    (Users.ensureFirstAdmin settings.auth.firstAdmin (settings.auth.hashing salts.firstAdmin) now)
    .firstAdmin
  let _ ← perform (Logins.purge now)

/-- Carries out work on the store that settings name. -/
def withStore (settings : Settings) (work : Work String) (d : Disk) :
    Except Fault String × Disk :=
  match openStore settings d with
  | .error (reason, d) => (.error (.opening settings.database.path reason), d)
  | .ok (store, disk) =>
      let (result, b) := Steps.run (ExceptT.run work) { store, disk }
      (result, keepStore settings b.store b.disk)

/-! ## Invocations -/

/-- What a command finds around it. -/
structure Surroundings where
  disk : Disk
  environment : Config.Environment
  /-- The folder with the user's settings. -/
  configHome : String
  salts : Salts

/-- The surroundings with the variables of the folder's file of variables. -/
def Surroundings.withVariables (s : Surroundings) : Surroundings :=
  match s.disk.read? ".env" with
  | some text => { s with environment := Config.loadFile text s.environment }
  | none => s

/-- The files of settings that there are, the lowest first. -/
def Surroundings.settingsFiles (s : Surroundings) : List String :=
  [s.configHome ++ "/" ++ Settings.userFile, Settings.folderFile].filterMap s.disk.read?

/-- The settings that the surroundings give, their variables being loaded. -/
def Surroundings.settings (s : Surroundings) : Except SettingsFault Settings :=
  Settings.load s.settingsFiles s.environment

/-- The settings with another store, if one is named. -/
def useDatabase (path : Option String) (settings : Settings) : Except Fault Settings :=
  match path with
  | none => .ok settings
  | some path =>
      let settings := { settings with database := { settings.database with path } }
      match settings.check with
      | .ok settings => .ok settings
      | .error bad => .error (.databasePath bad)

/-- The settings with the address at which a command serves, which must be one of a network. -/
def useAddress (c : Command) (settings : Settings) : Except Fault Settings :=
  match c with
  | .serve host port =>
      let server := { settings.server with
        host := host.getD settings.server.host
        port := port.getD settings.server.port }
      if server.address?.isSome then .ok { settings with server }
      else .error (.host server.host)
  | _ => .ok settings

namespace Invocation

/-- The settings that a command runs with. -/
def settings (i : Invocation) (s : Surroundings) : Except Fault Settings :=
  match s.settings with
  | .error fault => .error (.settings fault)
  | .ok settings => do useAddress i.command (← useDatabase i.options.database settings)

/-- Carries out a command; returns what it has to show, and its surroundings after it. -/
def run (i : Invocation) (now : Instant) (s : Surroundings) :
    Except Fault String × Surroundings :=
  let s := s.withVariables
  match i.settings s with
  | .error fault => (.error fault, s)
  | .ok settings =>
      let work := do
        prepare settings s.salts now
        i.command.perform settings i.options.format s.salts now
      let (result, disk) := withStore settings work s.disk
      (result, { s with disk })

end Invocation

/-! ## Command lines -/

/-- What the program calls itself. -/
def versionLine : String := "gfd 0.1.0\n"

/-- What the program answers to a command line. -/
inductive Reply where
  | shown (text : String)
  | failed (fault : Fault)
  | declined (reason : Declined)

/-- The answer to a command line, and the surroundings after it. -/
def reply (words : List String) (now : Instant) (s : Surroundings) : Reply × Surroundings :=
  match Invocation.read words with
  | .error .version => (.shown versionLine, s)
  | .error reason => (.declined reason, s)
  | .ok i =>
      match i.run now s with
      | (.ok text, s) => (.shown text, s)
      | (.error fault, s) => (.failed fault, s)

end RobotMaze.Console
