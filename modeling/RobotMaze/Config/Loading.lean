import RobotMaze.Address
import RobotMaze.Config.EnvFile
import RobotMaze.Config.Settings
import RobotMaze.Toml.Document

/-! # Where settings come from

    Settings have four layers: the standard values, the file of the user, the
    file of the folder, and the environment; the last one counts most.

    * `Settings.load` puts the layers together and checks the result;
    * `Settings.toView` shows settings with what follows from them. -/

namespace RobotMaze

/-- Why there are no settings to run with. -/
inductive SettingsFault where
  /-- A layer cannot be read, or a value is of the wrong kind. -/
  | unreadable
  | bad (setting : BadSetting)
  deriving DecidableEq, Repr

/-- The wording of a fault. -/
def SettingsFault.message : SettingsFault → String
  | .unreadable => "Configuration error"
  | .bad setting => setting.message

/-- The address that the program listens on. -/
def ServerSettings.address? (s : ServerSettings) : Option SocketAddress :=
  SocketAddress.parse? (s.host ++ ":" ++ toString s.port.toNat)

namespace Settings

/-- Where the file of settings lies, below the user's folder of settings. -/
def userFile : String := "game-for-devs/config.toml"

/-- Where the file of settings lies, below the folder that the program runs in. -/
def folderFile : String := ".gfd/config.toml"

/-- Settings that may be run with. -/
def checked (s : Settings) : Except SettingsFault Settings :=
  match s.check with
  | .ok s => .ok s
  | .error bad => .error (.bad bad)

/-- Puts files, the lowest first, over a layer. -/
def overlayFiles (low : Json) : List String → Option Json
  | [] => some low
  | text :: rest =>
      match Toml.parse? text with
      | some layer => overlayFiles (Config.overlay low layer) rest
      | none => none

/-- The settings of files, the lowest first, and an environment. -/
def load (files : List String) (env : Config.Environment) : Except SettingsFault Settings :=
  match overlayFiles (toJson {}) files with
  | none => .error .unreadable
  | some low =>
      match Json.decodeValue decoder (Config.overlay low (Config.environmentLayer env)) with
      | .ok s => s.checked
      | .error _ => .error .unreadable

/-- The settings with the address, and what they say about origins, store and audit trail. -/
def toView (s : Settings) : Json :=
  .object [
    ("config", s.toJson),
    ("socketAddr", .optional .string (s.server.address?.map SocketAddress.render)),
    ("anyOrigin", .bool s.server.allowsAnyOrigin),
    ("inMemory", .bool s.database.isInMemory),
    ("trail", .optional .string s.database.auditTrail?)]

end Settings

end RobotMaze
