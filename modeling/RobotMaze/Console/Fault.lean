import RobotMaze.Config.Loading
import RobotMaze.Console.Disk
import RobotMaze.Failure
import RobotMaze.Named
import RobotMaze.Text.Blank
import RobotMaze.Text.LowerCase
import RobotMaze.Text.Split
import RobotMaze.Web.Response

/-! # Faults — why a command did not succeed

    A `Fault` is a cause, perhaps with what was being done; `Fault.message` puts
    both into words.

    A value is named more freely on the command line than elsewhere: cases do
    not matter, hyphens stand for underscores, and white space around the name is
    skipped.  A word that names nothing is a fault too. -/

namespace RobotMaze.Console

/-! ## Names -/

/-- A word that names nothing. -/
structure BadChoice where
  /-- What the word should have named. -/
  field : String
  word : String
  deriving DecidableEq, Repr

/-- The wording of a word that names nothing. -/
def BadChoice.message (b : BadChoice) : String := "invalid " ++ b.field ++ " '" ++ b.word ++ "'"

/-- A word in the form in which names are written. -/
def nameOfWord (word : String) : String :=
  Text.asciiUpper (String.ofList ((Text.trim word).toList.map fun c => if c = '-' then '_' else c))

/-- A word between quotation marks, the way a name stands in JSON; nothing in it is escaped. -/
def quotedWord (word : String) : String := "\"" ++ nameOfWord word ++ "\""

/-- The value that a word names, read like a name in JSON. -/
def choice {α : Type} [Named α] (field word : String) : Except BadChoice α :=
  (Json.decode Named.decoder (quotedWord word)).mapError fun _ => ⟨field, word⟩

/-! ## Faults -/

/-- Why a command did not succeed. -/
inductive Fault where
  | settings (fault : SettingsFault)
  | databasePath (setting : BadSetting)
  | host (host : String)
  | opening (path : String) (reason : Disk.Unopened)
  | firstAdmin (failure : Failure)
  | store (failure : Failure)
  | choice (word : BadChoice)
  | date (refusal : Web.Refusal)
  | noUser (username : String)
  | reading (file : String)
  | writing (file : String)
  /-- The file to import is no JSON. -/
  | notJson
  /-- The file to import holds something other than tracks. -/
  | noTracks
  | importing (name : String) (failure : Failure)

namespace Fault

/-- The wording of a failure, if it is the program's own. -/
def wording : Failure → List String
  | .refused => []
  | .surroundings => []
  | f => [f.message]

/-- The wording of what stands in the way of a store, if it is the program's own. -/
def reasonWording : Disk.Unopened → List String
  | .blocked => []
  | .otherFile => ["Migration failed: 001_initial: SQLite failure: \x60file is not a database\x60"]

/-- What was being done and what went wrong, in words. -/
def parts : Fault → List String
  | .settings fault => ["failed to load configuration", fault.message]
  | .databasePath setting => [setting.message]
  | .host name => ["server.host must be an IP address, got '" ++ name ++ "'"]
  | .opening path reason => ("failed to open database at " ++ path) :: reasonWording reason
  | .firstAdmin f => "failed to create the default administrator" :: wording f
  | .store f => wording f
  | .choice word => [word.message]
  | .date refusal => [refusal.message none]
  | .noUser username => ["no user named '" ++ username ++ "'"]
  | .reading file => ["failed to read " ++ file]
  | .writing file => ["failed to write " ++ file]
  | .notJson => ["import file is not valid JSON"]
  | .noTracks => []
  | .importing name f => ("failed to import '" ++ name ++ "'") :: wording f

/-- The wording of a fault. -/
def message (f : Fault) : String := Text.join ": " f.parts

end Fault

end RobotMaze.Console
