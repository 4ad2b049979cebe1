import RobotMaze.Console.Needs
import Std.Time.DateTime.Timestamp

/-! # The program

    Reads the files that a command needs, carries the command out, and writes
    what has changed. -/

namespace RobotMaze.Program

open Console
open RobotMaze.Time (Instant)

/-- How the program is called. -/
def usage : String :=
  "Usage: gfd [OPTIONS] <COMMAND>\n\n" ++
  "Commands:\n" ++
  "  serve    Check the address to serve the game at\n" ++
  "  migrate  Prepare the store\n" ++
  "  user     Accounts: create, list, passwd\n" ++
  "  track    Tracks: list, export, import\n" ++
  "  audit    Audit log: recent, export\n" ++
  "  stats    Figures: report, daily\n\n" ++
  "Options:\n" ++
  "  -f, --format <json|table|raw>\n" ++
  "  -q, --quiet\n" ++
  "  -v, --verbose\n" ++
  "      --database <FILE>\n" ++
  "  -h, --help\n" ++
  "  -V, --version\n"

/-- The time of the clock. -/
def now : IO Instant := do
  let nanos := (← Std.Time.Timestamp.now).toNanosecondsSinceUnixEpoch.val
  return ⟨nanos / 1000000000, (nanos % 1000000000).toNat⟩

/-- The text of a file, if it can be read. -/
def textOf? (path : String) : IO (Option String) := do
  try
    return some (← IO.FS.readFile path)
  catch _ => return none

/-- The disk with the text of a file on it, if there is one. -/
def load (put : Disk → String → String → Disk) (d : Disk) (path : String) : IO Disk := do
  return ((← textOf? path).map (put d path)).getD d

/-- The folder with the user's settings. -/
def configHome : IO String := do
  match ← IO.getEnv "XDG_CONFIG_HOME", ← IO.getEnv "HOME" with
  | some folder, _ => return folder
  | none, some home => return home ++ "/.config"
  | none, none => return ".config"

/-- The variables that settings may come from. -/
def environment : IO Config.Environment :=
  variableNames.filterMapM fun name => do
    return (← IO.getEnv name).map fun text => (name, text)

/-- Random bytes for a hash. -/
def salt : IO (List UInt8) := do
  return (← IO.getRandomBytes 16).toList

/-- What a command finds around it, its store left out. -/
def surroundings (i : Invocation) : IO Surroundings := do
  let configHome ← configHome
  let folders := (i.output?.map Disk.above).getD []
  let disk ← (i.firstFiles configHome).foldlM (load fun d path text => d.put (Disk.plain path) text)
    { folders }
  let salts := ⟨← salt, ← salt⟩
  return { disk, environment := ← environment, configHome, salts }

/-- The surroundings with the store that a command works on. -/
def withStoreOf (i : Invocation) (now : Instant) (s : Surroundings) : IO Surroundings := do
  match i.settings s.withVariables with
  | .error _ => return s
  | .ok settings =>
      let (store, trail?) := Invocation.laterFiles settings now
      let disk ← load Disk.putStore s.disk store
      let disk ← match trail? with
        | some path => load (fun d path text => d.put path text) disk path
        | none => pure disk
      return { s with disk }

/-- Writes what a command has changed; the path of a file that cannot be written, if any. -/
def save (before disk : Disk) : IO (Option String) := do
  for folder in disk.changedFolders before do
    IO.FS.createDirAll folder
  for (path, text) in disk.changes before do
    try
      IO.FS.writeFile path text
    catch _ => return some path
  return none

/-- Says on the error output why a command did not succeed. -/
def complain (message : String) : IO UInt32 := do
  IO.eprintln ("gfd error: " ++ message)
  return 1

/-- Answers a command line, and returns the exit code. -/
def answer (words : List String) (now : Instant) (s : Surroundings) : IO UInt32 := do
  let (reply, after) := reply words now s
  if let some path ← save s.disk after.disk then
    return ← complain (Fault.writing path).message
  match reply with
  | .shown text =>
      IO.print text
      return 0
  | .failed fault => complain fault.message
  | .declined .misuse =>
      IO.eprint usage
      return 2
  | .declined _ =>
      IO.print usage
      return 0

end RobotMaze.Program

/-- The program: carries out the command that its words name. -/
def main (words : List String) : IO UInt32 := do
  let now ← RobotMaze.Program.now
  match RobotMaze.Console.Invocation.read words with
  | .ok i => do
      let s ← RobotMaze.Program.surroundings i
      RobotMaze.Program.answer words now (← RobotMaze.Program.withStoreOf i now s)
  | .error _ =>
      RobotMaze.Program.answer words now
        { disk := {}, environment := [], configHome := "", salts := ⟨[], []⟩ }
