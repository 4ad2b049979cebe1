import RobotMaze.Json.Decoder
import RobotMaze.Keyed
import RobotMaze.Time.Printer

/-! # Figures of the audit log, of tracks and of accounts

    * `UserActions` are the actions of one user by kind, `ResourceCount` the
      changes of one resource, `AuditFigures` the log as a whole;
    * `LevelCounts`, `RoleCounts` count what is active. -/

namespace RobotMaze

open Time (Instant)

/-- The actions of one user by kind. -/
structure UserActions where
  username : String
  /-- Counts by the name of the action's kind, in order of the names. -/
  counts : List (String × Nat)
  total : Nat
  deriving DecidableEq, Repr

namespace UserActions

/-- The actions of a user from their counts. -/
def new (username : String) (counts : List (String × Nat)) : UserActions :=
  ⟨username, counts, counts.foldl (fun sum c => sum + c.2) 0⟩

/-- The figures as an object. -/
def toJson (s : UserActions) : Json :=
  .object [
    ("username", .string s.username),
    ("actionCounts", .object (s.counts.map fun (kind, n) => (kind, Json.count n))),
    ("totalActions", .count s.total)]

/-- Decodes counts by name; of one name the last count stays. -/
def countsDecoder : Json.Decoder (List (String × Nat)) := fun r =>
  (Json.Decoder.table some Json.Decoder.count r).map Keyed.ofList

/-- Decodes the figures. -/
def decoder : Json.Decoder UserActions :=
  (UserActions.mk
    <$> .required "username" .string
    <*> .required "actionCounts" countsDecoder
    <*> .required "totalActions" .count : Json.Record UserActions).decoder

end UserActions

/-- How often a resource was modified. -/
structure ResourceCount where
  resourceType : String
  resourceName : Option String
  modifications : Nat
  deriving DecidableEq, Repr

namespace ResourceCount

/-- The count as an object. -/
def toJson (s : ResourceCount) : Json :=
  .object [
    ("resourceType", .string s.resourceType),
    ("resourceName", .optional .string s.resourceName),
    ("modifications", .count s.modifications)]

/-- Decodes a count. -/
def decoder : Json.Decoder ResourceCount :=
  (ResourceCount.mk
    <$> .required "resourceType" .string
    <*> .optional "resourceName" .string
    <*> .required "modifications" .count : Json.Record ResourceCount).decoder

end ResourceCount

/-- The figures of the audit log. -/
structure AuditFigures where
  today : Nat
  activeUsers : Nat
  total : Nat
  latest : Option Instant
  deriving DecidableEq, Repr

namespace AuditFigures

/-- The figures as an object. -/
def toJson (s : AuditFigures) : Json :=
  .object [
    ("todayAuditEntries", .count s.today),
    ("activeUsers", .count s.activeUsers),
    ("totalAuditEntries", .count s.total),
    ("lastAuditEntry", .optional Instant.toJson s.latest)]

/-- Decodes the figures. -/
def decoder : Json.Decoder AuditFigures :=
  (AuditFigures.mk
    <$> .required "todayAuditEntries" .count
    <*> .required "activeUsers" .count
    <*> .required "totalAuditEntries" .count
    <*> .optional "lastAuditEntry" Instant.decoder : Json.Record AuditFigures).decoder

end AuditFigures

/-- The active tracks by level. -/
structure LevelCounts where
  totalActive : Nat
  /-- Counts by level, lowest level first. -/
  byLevel : List (Int × Nat)
  deriving DecidableEq, Repr

namespace LevelCounts

/-- The counts as an object. -/
def toJson (s : LevelCounts) : Json :=
  .object [
    ("totalActive", .count s.totalActive),
    ("byDifficulty", .object (s.byLevel.map fun (level, n) => (toString level, Json.count n)))]

/-- Decodes counts by level; of one level the last count stays. -/
def levelsDecoder : Json.Decoder (List (Int × Nat)) := fun r =>
  (Json.Decoder.table Json.Reading.int32Key? Json.Decoder.count r).map Keyed.ofList

/-- Decodes the counts. -/
def decoder : Json.Decoder LevelCounts :=
  (LevelCounts.mk
    <$> .required "totalActive" .count
    <*> .required "byDifficulty" levelsDecoder : Json.Record LevelCounts).decoder

end LevelCounts

/-- The active users by role. -/
structure RoleCounts where
  totalActive : Nat
  admins : Nat
  superAdmins : Nat
  deriving DecidableEq, Repr

namespace RoleCounts

/-- The counts as an object. -/
def toJson (s : RoleCounts) : Json :=
  .object [
    ("totalActive", .count s.totalActive),
    ("admins", .count s.admins),
    ("superAdmins", .count s.superAdmins)]

/-- Decodes the counts. -/
def decoder : Json.Decoder RoleCounts :=
  (RoleCounts.mk
    <$> .required "totalActive" .count
    <*> .required "admins" .count
    <*> .required "superAdmins" .count : Json.Record RoleCounts).decoder

end RoleCounts

end RobotMaze
