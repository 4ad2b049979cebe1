import RobotMaze.Console.Work
import RobotMaze.Store.Snapshot

/-! # Needs — what a command wants of the disk

    A command works on a disk that holds no more than it needs.

    * `variableNames` are the variables that settings may come from;
    * `Invocation.firstFiles` are the files that a command may read before its
      settings are known, `laterFiles` those after;
    * `Disk.putStore` puts the text of a store's file on the disk;
    * `Disk.changes` are the files that are to be written after a command. -/

namespace RobotMaze.Console

open Time (Instant)

mutual

/-- The paths of the values in a value that are no objects. -/
def leaves (path : List String) : Json → List (List String)
  | .object members => leavesOf path members
  | _ => [path]

/-- The paths of the values in members that are no objects. -/
def leavesOf (path : List String) : List (String × Json) → List (List String)
  | [] => []
  | (name, j) :: rest => leaves (path ++ [name]) j ++ leavesOf path rest

end

/-- The names of the variables that settings may come from. -/
def variableNames : List String :=
  (leaves [] (Settings.toJson {})).map fun path =>
    Text.asciiUpper (Config.nameStart ++ Text.join "__" path)

/-- A store without rows, as the text of its file. -/
def storeText (db : Database) : String := db.toJson.render

namespace Disk

/-- Puts the text of a file on the disk: as a store if it is the snapshot of one. -/
def putStore (d : Disk) (path text : String) : Disk :=
  match Json.decode Database.decoder text with
  | .ok db => d.keep path db
  | .error _ => d.put (plain path) text

/-- The stores, and the files that differ from those of an earlier disk, with their texts. -/
def changes (d before : Disk) : List (String × String) :=
  d.stores.map (fun (path, db) => (path, storeText db))
    ++ d.files.filter fun (path, text) => before.files.lookup path != some text

/-- The folders that files to be written lie in. -/
def changedFolders (d before : Disk) : List String :=
  (d.folders.filter fun path => !before.folders.contains path)

end Disk

namespace Invocation

/-- The files that a command may read before its settings are known. -/
def firstFiles (i : Invocation) (configHome : String) : List String :=
  let settings := [".env", configHome ++ "/" ++ Settings.userFile, Settings.folderFile]
  match i.command with
  | .importTracks file => file :: settings
  | _ => settings

/-- The file that a command writes beside its store. -/
def output? (i : Invocation) : Option String :=
  match i.command with
  | .exportTracks _ _ file => file
  | .exportAudit _ file => file
  | _ => none

/-- The file of the store that settings name, and that of the audit trail for the day. -/
def laterFiles (settings : Settings) (now : Instant) : String × Option String :=
  (settings.database.path,
    settings.database.auditTrail?.map fun folder => Disk.within folder (Trail.fileOf now))

end Invocation

end RobotMaze.Console
