import RobotMaze.Store.Database
import RobotMaze.Text.Split

/-! # The disk — files and stores below one folder

    Commands read and write files, and keep stores, below the folder that the
    program runs in.

    * `Disk.read?` and `Disk.write?` get at files;
    * `Disk.openStore` finds a store or makes an empty one, with the folders
      above it, and `Disk.keep` puts it back;
    * `Disk.trail?` and `Disk.keepTrail` do the same for an audit trail. -/

namespace RobotMaze.Console

/-- What lies below a folder. -/
structure Disk where
  /-- The text of each file, by its path. -/
  files : List (String × String) := []
  /-- The store in each file that holds one. -/
  stores : List (String × Database) := []
  /-- Folders that were made. -/
  folders : List String := []

namespace Disk

/-! ## Paths -/

/-- The steps of a path: empty ones and single points lead nowhere.  The first step of a path from
    the root has the root's slash in front. -/
def steps (path : String) : List String :=
  let steps := (Text.split '/' path).filter fun step => step ≠ "" && step ≠ "."
  match steps with
  | first :: rest => if path.startsWith "/" then ("/" ++ first) :: rest else steps
  | [] => []

/-- A path in its plainest form. -/
def plain (path : String) : String := Text.join "/" (steps path)

/-- The paths of the folders above, and of the path itself, from the top. -/
def chain : List String → List String → List String
  | _, [] => []
  | done, step :: rest => Text.join "/" (done ++ [step]) :: chain (done ++ [step]) rest

/-- The paths of all folders that lead to a path. -/
def above (path : String) : List String := (chain [] (steps path)).dropLast

/-! ## Files -/

/-- Whether a file, with a text or a store, lies at a path. -/
def hasFile (d : Disk) (path : String) : Bool :=
  (d.files.lookup path).isSome || (d.stores.lookup path).isSome

/-- Whether a folder lies at a path. -/
def hasFolder (d : Disk) (path : String) : Bool :=
  path.isEmpty || d.folders.contains path
    || (d.files.map Prod.fst ++ d.stores.map Prod.fst).any fun file => (above file).contains path

/-- The text of a file. -/
def read? (d : Disk) (path : String) : Option String := d.files.lookup (plain path)

/-- The disk with a text under a path. -/
def put (d : Disk) (path text : String) : Disk :=
  { d with
    files := Keyed.insert path text d.files
    stores := d.stores.filter fun entry => entry.1 ≠ path }

/-- Writes a file, in a folder that there is. -/
def write? (d : Disk) (path text : String) : Option Disk :=
  let path := plain path
  let folder := ((above path).getLast?).getD ""
  if d.hasFolder folder && !d.hasFolder path then some (d.put path text) else none

/-- Makes folders, where no file is in the way. -/
def makeFolders? (d : Disk) (paths : List String) : Option Disk :=
  if paths.any d.hasFile then none
  else some { d with folders := d.folders ++ paths.filter fun path => !d.hasFolder path }

/-! ## Stores -/

/-- The path of a store that is kept in memory only. -/
def memory : String := ":memory:"

/-- Why there is no store at a path. -/
inductive Unopened where
  /-- A folder lies there, or a file lies where a folder should. -/
  | blocked
  /-- A file lies there that holds something else. -/
  | otherFile
  deriving DecidableEq, Repr

/-- The store at a path; where there is none, or an empty file, a store is made. -/
def openStore (d : Disk) (path : String) : Except Unopened (Database × Disk) :=
  if path = memory then .ok ({}, d)
  else
    let path := plain path
    match d.makeFolders? (above path) with
    | none => .error .blocked
    | some d =>
        match d.stores.lookup path with
        | some db => .ok (db, d)
        | none =>
            if d.hasFolder path then .error .blocked
            else if (d.files.lookup path).any (· ≠ "") then .error .otherFile
            else
              .ok ({}, { d with
                files := d.files.filter fun entry => entry.1 ≠ path
                stores := Keyed.insert path {} d.stores })

/-- Puts a store back. -/
def keep (d : Disk) (path : String) (db : Database) : Disk :=
  if path = memory then d else { d with stores := Keyed.insert (plain path) db d.stores }

/-! ## Audit trails -/

/-- The path of a file in a folder. -/
def within (folder name : String) : String := plain (folder ++ "/" ++ name)

/-- The name of a file, if it lies in a folder. -/
def nameIn? (folder path : String) : Option String :=
  let name := (steps path).getLast?.getD ""
  if within folder name = path then some name else none

/-- The audit trail in a folder, which is made where there is none. -/
def trail? (d : Disk) (folder : String) : Option (Trail × Disk) :=
  match d.makeFolders? (chain [] (steps folder)) with
  | none => none
  | some d =>
      let texts := d.files.filterMap fun (path, text) =>
        (nameIn? folder path).map fun name => (name, text)
      some (.files texts, d)

/-- Puts the files of an audit trail back. -/
def keepTrail (d : Disk) (folder : String) (t : Trail) : Disk :=
  match t with
  | .files texts => texts.foldl (fun d (name, text) => d.put (within folder name) text) d
  | _ => d

end Disk

end RobotMaze.Console
