import RobotMaze.Store.Database

/-! # Snapshots — a database as one JSON value

    Between two runs of the program a database is kept as JSON: each table with
    its rows and the last id that it gave out.

    * `Database.toJson` is the snapshot of a database;
    * `Database.decoder` reads a snapshot. -/

namespace RobotMaze

/-- The number of a byte, decoded. -/
def byteDecoder : Json.Decoder UInt8 := fun r => (Json.Decoder.below 256 r).map UInt8.ofNat

namespace PasswordHash

/-- A hash as an object: of its key, or of the text that is no hash. -/
def toJson : PasswordHash → Json
  | .ofKey hashing key => .object [
      ("cost", .count hashing.cost),
      ("salt", .list (fun b => .count b.toNat) hashing.salt),
      ("key", .list (fun b => .count b.toNat) key)]
  | .unusable text => .object [("text", .string text)]

/-- The hash of a key or of a text. -/
def ofParts (cost : Option Nat) (salt key : Option (List UInt8)) (text : Option String) :
    PasswordHash :=
  match key with
  | some key => .ofKey ⟨cost.getD 0, salt.getD []⟩ key
  | none => .unusable (text.getD "")

/-- Decodes a hash. -/
def decoder : Json.Decoder PasswordHash :=
  (ofParts <$> .optional "cost" (.below 0x100000000) <*> .optional "salt" (.list byteDecoder)
    <*> .optional "key" (.list byteDecoder) <*> .optional "text" .string
    : Json.Record PasswordHash).decoder

end PasswordHash

namespace TrackRow

/-- A row as an object. -/
def toJson (r : TrackRow) : Json :=
  .object [
    ("id", .whole r.id),
    ("name", .string r.name),
    ("gridConfig", .string r.gridConfig),
    ("startX", .whole r.startX),
    ("startY", .whole r.startY),
    ("startDirection", Named.toJson r.heading),
    ("createdAt", .string r.createdAt),
    ("updatedAt", .string r.updatedAt),
    ("createdBy", .optional .string r.createdBy),
    ("isActive", .whole r.isActive),
    ("difficultyLevel", .whole r.difficulty),
    ("description", .optional .string r.description)]

/-- Decodes a row. -/
def decoder : Json.Decoder TrackRow :=
  (TrackRow.mk
    <$> .required "id" .int64
    <*> .required "name" .string
    <*> .required "gridConfig" .string
    <*> .required "startX" .int64
    <*> .required "startY" .int64
    <*> .required "startDirection" Named.decoder
    <*> .required "createdAt" .string
    <*> .required "updatedAt" .string
    <*> .optional "createdBy" .string
    <*> .required "isActive" .int64
    <*> .required "difficultyLevel" .int64
    <*> .optional "description" .string : Json.Record TrackRow).decoder

end TrackRow

namespace UserRow

/-- A row as an object. -/
def toJson (r : UserRow) : Json :=
  .object [
    ("id", .whole r.id),
    ("username", .string r.username),
    ("passwordHash", r.passwordHash.toJson),
    ("email", .string r.email),
    ("fullName", .string r.fullName),
    ("role", Named.toJson r.role),
    ("isActive", .whole r.isActive),
    ("createdAt", .string r.createdAt),
    ("lastLogin", .optional .string r.lastLogin),
    ("createdBy", .optional .string r.createdBy)]

/-- Decodes a row. -/
def decoder : Json.Decoder UserRow :=
  (UserRow.mk
    <$> .required "id" .int64
    <*> .required "username" .string
    <*> .required "passwordHash" PasswordHash.decoder
    <*> .required "email" .string
    <*> .required "fullName" .string
    <*> .required "role" Named.decoder
    <*> .required "isActive" .int64
    <*> .required "createdAt" .string
    <*> .optional "lastLogin" .string
    <*> .optional "createdBy" .string : Json.Record UserRow).decoder

end UserRow

namespace SessionRow

/-- A row as an object. -/
def toJson (r : SessionRow) : Json :=
  .object [
    ("id", .whole r.id),
    ("sessionId", .string r.sessionId),
    ("trackId", .whole r.trackId),
    ("startTime", .string r.startTime),
    ("endTime", .optional .string r.endTime),
    ("status", Named.toJson r.status),
    ("movesCount", .whole r.movesCount),
    ("executionTimeMs", .optional .whole r.executionTime),
    ("errorPositionX", .optional .whole r.errorX),
    ("errorPositionY", .optional .whole r.errorY),
    ("errorMessage", .optional .string r.errorMessage),
    ("ipAddress", .optional .string r.ipAddress),
    ("userAgent", .optional .string r.userAgent),
    ("screenResolution", .optional .string r.screen),
    ("deviceType", .string r.device),
    ("movesSequence", .optional .string r.moves),
    ("attemptsCount", .whole r.attempts),
    ("cellsVisited", .whole r.cellsVisited),
    ("totalCellsRequired", .whole r.totalCells)]

/-- Decodes a row. -/
def decoder : Json.Decoder SessionRow :=
  (SessionRow.mk
    <$> .required "id" .int64
    <*> .required "sessionId" .string
    <*> .required "trackId" .int64
    <*> .required "startTime" .string
    <*> .optional "endTime" .string
    <*> .required "status" Named.decoder
    <*> .required "movesCount" .int64
    <*> .optional "executionTimeMs" .int64
    <*> .optional "errorPositionX" .int64
    <*> .optional "errorPositionY" .int64
    <*> .optional "errorMessage" .string
    <*> .optional "ipAddress" .string
    <*> .optional "userAgent" .string
    <*> .optional "screenResolution" .string
    <*> .required "deviceType" .string
    <*> .optional "movesSequence" .string
    <*> .required "attemptsCount" .int64
    <*> .required "cellsVisited" .int64
    <*> .required "totalCellsRequired" .int64 : Json.Record SessionRow).decoder

end SessionRow

namespace AuditRow

/-- A row as an object. -/
def toJson (r : AuditRow) : Json :=
  .object [
    ("id", .whole r.id),
    ("username", .string r.username),
    ("action", .string r.action),
    ("actionType", .string r.kind),
    ("resourceType", .string r.resourceType),
    ("resourceId", .optional .string r.resourceId),
    ("resourceName", .optional .string r.resourceName),
    ("details", .optional .string r.details),
    ("timestamp", .string r.timestamp),
    ("ipAddress", .optional .string r.ipAddress),
    ("userAgent", .optional .string r.userAgent),
    ("status", .string r.status),
    ("errorMessage", .optional .string r.errorMessage)]

/-- Decodes a row. -/
def decoder : Json.Decoder AuditRow :=
  (AuditRow.mk
    <$> .required "id" .int64
    <*> .required "username" .string
    <*> .required "action" .string
    <*> .required "actionType" .string
    <*> .required "resourceType" .string
    <*> .optional "resourceId" .string
    <*> .optional "resourceName" .string
    <*> .optional "details" .string
    <*> .required "timestamp" .string
    <*> .optional "ipAddress" .string
    <*> .optional "userAgent" .string
    <*> .required "status" .string
    <*> .optional "errorMessage" .string : Json.Record AuditRow).decoder

end AuditRow

namespace LoginRow

/-- A row as an object. -/
def toJson (r : LoginRow) : Json :=
  .object [
    ("token", .string r.token),
    ("userId", .whole r.userId),
    ("createdAt", .string r.createdAt),
    ("expiresAt", .string r.expiresAt),
    ("ipAddress", .optional .string r.ipAddress),
    ("userAgent", .optional .string r.userAgent)]

/-- Decodes a row. -/
def decoder : Json.Decoder LoginRow :=
  (LoginRow.mk
    <$> .required "token" .string
    <*> .required "userId" .int64
    <*> .required "createdAt" .string
    <*> .required "expiresAt" .string
    <*> .optional "ipAddress" .string
    <*> .optional "userAgent" .string : Json.Record LoginRow).decoder

end LoginRow

namespace Table

variable {ρ : Type}

/-- A table as an object. -/
def toJson (encode : ρ → Json) (t : Table ρ) : Json :=
  .object [("rows", .list encode t.rows), ("lastId", .whole t.lastId)]

/-- Decodes a table. -/
def decoder (d : Json.Decoder ρ) : Json.Decoder (Table ρ) :=
  (Table.mk <$> .required "rows" (.list d) <*> .required "lastId" .int64
    : Json.Record (Table ρ)).decoder

end Table

namespace Database

/-- The snapshot of a database. -/
def toJson (db : Database) : Json :=
  .object [
    ("tracks", db.tracks.toJson TrackRow.toJson),
    ("users", db.users.toJson UserRow.toJson),
    ("sessions", db.sessions.toJson SessionRow.toJson),
    ("audit", db.audit.toJson AuditRow.toJson),
    ("logins", .list LoginRow.toJson db.logins)]

/-- Decodes a snapshot. -/
def decoder : Json.Decoder Database :=
  (Database.mk
    <$> .required "tracks" (Table.decoder TrackRow.decoder)
    <*> .required "users" (Table.decoder UserRow.decoder)
    <*> .required "sessions" (Table.decoder SessionRow.decoder)
    <*> .required "audit" (Table.decoder AuditRow.decoder)
    <*> .required "logins" (.list LoginRow.decoder) : Json.Record Database).decoder

end Database

end RobotMaze
