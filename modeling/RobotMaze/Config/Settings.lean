import RobotMaze.Json.Decoder
import RobotMaze.Text.Blank
import RobotMaze.User.Basic

/-! # Settings — what the program can be told

    Settings come in four groups, each with values of its own for what nobody
    sets.

    * `Settings.check` rejects values that the program cannot run with;
    * `Settings.toJson`, `Settings.decoder` — the form with named members. -/

namespace RobotMaze

/-- Where the program listens, and which web pages may call it. -/
structure ServerSettings where
  host : String := "0.0.0.0"
  port : UInt16 := 8080
  /-- The origins that may call the game; `*` stands for all of them. -/
  origins : List String := ["*"]
  deriving DecidableEq, Repr

namespace ServerSettings

/-- Whether any web page may call the game. -/
def allowsAnyOrigin (s : ServerSettings) : Bool := s.origins.contains "*"

/-- The settings as an object. -/
def toJson (s : ServerSettings) : Json :=
  .object [
    ("host", .string s.host),
    ("port", .count s.port.toNat),
    ("cors_allowed_origins", .list .string s.origins)]

/-- A port number. -/
def portDecoder : Json.Decoder UInt16 := fun r =>
  (Json.Decoder.below 0x10000 r).map UInt16.ofNat

/-- Decodes the settings. -/
def decoder : Json.Decoder ServerSettings :=
  let standard : ServerSettings := {}
  (ServerSettings.mk
    <$> .defaulted "host" .string standard.host
    <*> .defaulted "port" portDecoder standard.port
    <*> .defaulted "cors_allowed_origins" (.list .string) standard.origins
    : Json.Record ServerSettings).decoder

end ServerSettings

/-- Where the store and the audit trail are kept. -/
structure DatabaseSettings where
  /-- The file of the store; `:memory:` stands for none. -/
  path : String := ".gfd/gfd.db"
  /-- The folder of the audit trail; an empty text stands for none. -/
  auditTrailDir : String := ""
  deriving DecidableEq, Repr

namespace DatabaseSettings

/-- Whether the store is kept in memory only. -/
def isInMemory (s : DatabaseSettings) : Bool := s.path == ":memory:"

/-- The folder of the audit trail, if there is one. -/
def auditTrail? (s : DatabaseSettings) : Option String :=
  if s.auditTrailDir.isEmpty then none else some s.auditTrailDir

/-- The settings as an object. -/
def toJson (s : DatabaseSettings) : Json :=
  .object [("path", .string s.path), ("audit_trail_dir", .string s.auditTrailDir)]

/-- Decodes the settings. -/
def decoder : Json.Decoder DatabaseSettings :=
  let standard : DatabaseSettings := {}
  (DatabaseSettings.mk
    <$> .defaulted "path" .string standard.path
    <*> .defaulted "audit_trail_dir" .string standard.auditTrailDir
    : Json.Record DatabaseSettings).decoder

end DatabaseSettings

/-- The account that is made when there is none. -/
structure FirstAdmin where
  enabled : Bool := true
  username : String := "admin"
  password : String := "admin123"
  email : String := "admin@gamefordevs.com"
  fullName : String := "System Administrator"
  deriving DecidableEq, Repr

namespace FirstAdmin

/-- The account as an object. -/
def toJson (s : FirstAdmin) : Json :=
  .object [
    ("enabled", .bool s.enabled),
    ("username", .string s.username),
    ("password", .string s.password),
    ("email", .string s.email),
    ("full_name", .string s.fullName)]

/-- Decodes the account. -/
def decoder : Json.Decoder FirstAdmin :=
  let standard : FirstAdmin := {}
  (FirstAdmin.mk
    <$> .defaulted "enabled" .bool standard.enabled
    <*> .defaulted "username" .string standard.username
    <*> .defaulted "password" .string standard.password
    <*> .defaulted "email" .string standard.email
    <*> .defaulted "full_name" .string standard.fullName : Json.Record FirstAdmin).decoder

end FirstAdmin

/-- How users log in. -/
structure AuthSettings where
  sessionHours : Int := 8
  passwordCost : UInt32 := 10
  cookieName : String := "GFD_SESSION"
  secureCookie : Bool := false
  firstAdmin : FirstAdmin := {}
  deriving DecidableEq, Repr

namespace AuthSettings

/-- The settings as an object. -/
def toJson (s : AuthSettings) : Json :=
  .object [
    ("session_ttl_hours", .whole s.sessionHours),
    ("bcrypt_cost", .count s.passwordCost.toNat),
    ("cookie_name", .string s.cookieName),
    ("secure_cookie", .bool s.secureCookie),
    ("bootstrap_admin", s.firstAdmin.toJson)]

/-- Decodes the settings. -/
def decoder : Json.Decoder AuthSettings :=
  let standard : AuthSettings := {}
  (AuthSettings.mk
    <$> .defaulted "session_ttl_hours" .int64 standard.sessionHours
    <*> .defaulted "bcrypt_cost" .uint32 standard.passwordCost
    <*> .defaulted "cookie_name" .string standard.cookieName
    <*> .defaulted "secure_cookie" .bool standard.secureCookie
    <*> .defaulted "bootstrap_admin" FirstAdmin.decoder standard.firstAdmin
    : Json.Record AuthSettings).decoder

/-- The least and the greatest number of hours that a login may last. -/
def hoursRange : Int × Int := (1, 8760)

/-- How long a login lasts, in seconds. -/
def loginSeconds (s : AuthSettings) : Int :=
  max hoursRange.1 (min s.sessionHours hoursRange.2) * 3600

/-- How passwords are hashed, with the salt that is drawn. -/
def hashing (s : AuthSettings) (salt : List UInt8) : Hashing := ⟨s.passwordCost.toNat, salt⟩

end AuthSettings

/-- The sizes of pages. -/
structure GeneralSettings where
  pageSize : UInt32 := 10
  auditPageSize : UInt32 := 20
  maxPageSize : UInt32 := 100
  deriving DecidableEq, Repr

namespace GeneralSettings

/-- The settings as an object. -/
def toJson (s : GeneralSettings) : Json :=
  .object [
    ("default_page_size", .count s.pageSize.toNat),
    ("audit_page_size", .count s.auditPageSize.toNat),
    ("max_page_size", .count s.maxPageSize.toNat)]

/-- Decodes the settings. -/
def decoder : Json.Decoder GeneralSettings :=
  let standard : GeneralSettings := {}
  (GeneralSettings.mk
    <$> .defaulted "default_page_size" .uint32 standard.pageSize
    <*> .defaulted "audit_page_size" .uint32 standard.auditPageSize
    <*> .defaulted "max_page_size" .uint32 standard.maxPageSize
    : Json.Record GeneralSettings).decoder

end GeneralSettings

/-- All settings. -/
structure Settings where
  server : ServerSettings := {}
  database : DatabaseSettings := {}
  auth : AuthSettings := {}
  general : GeneralSettings := {}
  deriving DecidableEq, Repr

/-- A setting that the program cannot run with. -/
inductive BadSetting where
  | passwordCost
  | sessionHours
  | cookieName
  | maxPageSize
  | pageSize
  | databasePath
  deriving DecidableEq, Repr

namespace BadSetting

/-- The name of a bad setting and what it must be. -/
def reason : BadSetting → String × String
  | .passwordCost => ("auth.bcrypt_cost", "must be between 4 and 31")
  | .sessionHours => ("auth.session_ttl_hours", "must be between 1 and 8760")
  | .cookieName => ("auth.cookie_name", "must not be empty")
  | .maxPageSize => ("general.max_page_size", "must be positive")
  | .pageSize => ("general", "page sizes must be positive")
  | .databasePath => ("database.path", "must not be empty")

/-- The wording of a bad setting. -/
def message (b : BadSetting) : String :=
  "Invalid configuration value for '" ++ b.reason.1 ++ "': " ++ b.reason.2

end BadSetting

namespace Settings

/-- The settings as an object. -/
def toJson (s : Settings) : Json :=
  .object [
    ("server", s.server.toJson),
    ("database", s.database.toJson),
    ("auth", s.auth.toJson),
    ("general", s.general.toJson)]

/-- Decodes settings; what is missing has its standard value. -/
def decoder : Json.Decoder Settings :=
  (Settings.mk
    <$> .defaulted "server" ServerSettings.decoder {}
    <*> .defaulted "database" DatabaseSettings.decoder {}
    <*> .defaulted "auth" AuthSettings.decoder {}
    <*> .defaulted "general" GeneralSettings.decoder {} : Json.Record Settings).decoder

/-- The first setting that the program cannot run with. -/
def firstBad? (s : Settings) : Option BadSetting :=
  if s.auth.passwordCost < 4 ∨ 31 < s.auth.passwordCost then some .passwordCost
  else if s.auth.sessionHours < AuthSettings.hoursRange.1
      ∨ AuthSettings.hoursRange.2 < s.auth.sessionHours then some .sessionHours
  else if Text.isBlankText s.auth.cookieName then some .cookieName
  else if s.general.maxPageSize = 0 then some .maxPageSize
  else if s.general.pageSize = 0 ∨ s.general.auditPageSize = 0 then some .pageSize
  else if Text.isBlankText s.database.path then some .databasePath
  else none

/-- The settings, unless one is bad. -/
def check (s : Settings) : Except BadSetting Settings :=
  match s.firstBad? with
  | some bad => .error bad
  | none => .ok s

end Settings

end RobotMaze
