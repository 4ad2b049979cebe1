import RobotMaze.Login.Basic
import RobotMaze.Paging
import RobotMaze.Proofs.Audit.Trail
import RobotMaze.Proofs.Json.Restores
import RobotMaze.Proofs.Track.Document
import RobotMaze.Robot.Run
import RobotMaze.Session.Report
import RobotMaze.Statistics.Activity
import RobotMaze.Statistics.Overview

/-! # Written and read back

    Every document of the game that holds no floating-point number is decoded from
    either of its texts, the one on a line and the indented one, to the value that
    was written, as long as its numbers fit their width and its times are ones that
    a clock shows.  Only the password hash of an account is lost on the way.

    * `Track.Representable`, `User.Representable`, … — the values of a kind that
      can be written;
    * `Track.restores`, `User.restores`, … — each field is restored from the
      member of its name;
    * `int32Key?_toString` — a level is read back from the name of its member;
    * `textsDecodeTo_of_representable` — so whatever was written is read back. -/

namespace RobotMaze

open Json (TextsDecodeTo)
open Json.Decoder (Restores)
open Json.Record
open Time (Instant)

/-! ## Tracks -/

/-- A track whose numbers fit their width and whose times a clock shows. -/
structure Track.Representable (t : Track) : Prop where
  id : IsInt64 t.id
  startX : IsInt32 t.startX
  startY : IsInt32 t.startY
  createdAt : t.createdAt.IsReading
  updatedAt : t.updatedAt.IsReading
  difficulty : IsInt32 t.difficulty

/-- A track is restored from its form. -/
theorem Track.restores {t : Track} (h : t.Representable) : decoder.Restores t.toJson t := by
  have hwrites := (writes_required "id" (.int64 h.id)).map Track.mk
    |>.seq (writes_required "name" (.string t.name))
    |>.seq (writes_required "gridConfig" (.string t.gridConfig))
    |>.seq (writes_required "startX" (.int32 h.startX))
    |>.seq (writes_required "startY" (.int32 h.startY))
    |>.seq (writes_required "startDirection" (.name (TrackDocument.ofName?_heading t.heading)))
    |>.seq (writes_required "createdAt" (.instant h.createdAt))
    |>.seq (writes_required "updatedAt" (.instant h.updatedAt))
    |>.seq (writes_optional "createdBy" (.text t.createdBy))
    |>.seq (writes_required "isActive" (.bool t.isActive))
    |>.seq (writes_required "difficultyLevel" (.int32 h.difficulty))
    |>.seq (writes_optional "description" (.text t.description))
  exact .record hwrites (by simp) (by simp)

/-- A document whose numbers fit their width and whose time a clock shows. -/
structure TrackDocument.Representable (d : TrackDocument) : Prop where
  startX : IsInt32 d.startX
  startY : IsInt32 d.startY
  difficulty : IsInt32 d.difficulty
  exportedAt : ∀ t ∈ d.exportedAt, t.IsReading

namespace TrackDocument

variable {d : TrackDocument}

/-- A document whose numbers have a form has portable numbers. -/
theorem Representable.portable (h : d.Representable) : d.Portable where
  startX := h.startX
  startY := h.startY
  difficulty := h.difficulty
  exportedAt t ht := (h.exportedAt t ht).1

/-- A document with a time that a clock shows is read back as it is. -/
theorem Representable.readBack_eq (h : d.Representable) : d.readBack = d := by
  have htime : d.exportedAt.map Instant.written = d.exportedAt := by
    cases hexported : d.exportedAt with
    | none => rfl
    | some t => exact congrArg some (Instant.written_eq (h.exportedAt t hexported).2)
  simp only [readBack]
  rw [htime]

/-- A document of a track is restored from its form. -/
theorem restores_self (h : d.Representable) : decoder.Restores d.toJson d := by
  have hread := restores h.portable
  rwa [h.readBack_eq] at hread

end TrackDocument

/-! ## Accounts and logins -/

/-- A role is known by its name. -/
theorem Role.ofName?_name (role : Role) : Named.ofName? (Named.name role) = some role := by
  cases role <;> rfl

/-- An account whose id fits its width and whose times a clock shows. -/
structure User.Representable (u : User) : Prop where
  id : IsInt64 u.id
  createdAt : u.createdAt.IsReading
  lastLogin : ∀ t ∈ u.lastLogin, t.IsReading

/-- An account is restored without its password hash, which is never written. -/
theorem User.restores {u : User} (h : u.Representable) :
    decoder.Restores u.toJson { u with passwordHash := .empty } := by
  have hlogin := Restores.optional (fun _ => Json.noConfusion) fun t ht =>
    Restores.instant (h.lastLogin t ht)
  have hwrites := (writes_required "id" (.int64 h.id)).map User.ofFields
    |>.seq (writes_required "username" (.string u.username))
    |>.seq (writes_required "email" (.string u.email))
    |>.seq (writes_required "fullName" (.string u.fullName))
    |>.seq (writes_required "role" (.name u.role.ofName?_name))
    |>.seq (writes_required "isActive" (.bool u.isActive))
    |>.seq (writes_required "createdAt" (.instant h.createdAt))
    |>.seq (writes_optional "lastLogin" hlogin)
    |>.seq (writes_optional "createdBy" (.text u.createdBy))
  exact .record hwrites (by simp) (by simp)

/-- A login whose user id fits its width and whose times a clock shows. -/
structure LoginSession.Representable (s : LoginSession) : Prop where
  userId : IsInt64 s.userId
  createdAt : s.createdAt.IsReading
  expiresAt : s.expiresAt.IsReading

/-- A login is restored from its form. -/
theorem LoginSession.restores {s : LoginSession} (h : s.Representable) :
    decoder.Restores s.toJson s := by
  have hwrites := (writes_required "token" (.string s.token)).map LoginSession.mk
    |>.seq (writes_required "userId" (.int64 h.userId))
    |>.seq (writes_required "createdAt" (.instant h.createdAt))
    |>.seq (writes_required "expiresAt" (.instant h.expiresAt))
    |>.seq (writes_optional "ipAddress" (.text s.ipAddress))
    |>.seq (writes_optional "userAgent" (.text s.userAgent))
  exact .record hwrites (by simp) (by simp)

/-! ## Audit entries -/

/-- An entry whose id fits its width and whose time a clock shows. -/
structure AuditEntry.Representable (e : AuditEntry) : Prop where
  id : IsInt64 e.id
  timestamp : e.timestamp.IsReading

/-- An entry with a form can be written as a line. -/
theorem AuditEntry.Representable.writable {e : AuditEntry} (h : e.Representable) : e.Writable where
  id_low := h.id.1
  id_high := Int.le_of_lt_add_one h.id.2
  timestamp := by rw [Instant.ofLoose?_render h.timestamp.1, Instant.written_eq h.timestamp.2]

/-! ## Game sessions -/

/-- The state of a session is known by its name. -/
theorem SessionStatus.ofName?_name (status : SessionStatus) :
    Named.ofName? (Named.name status) = some status := by
  cases status <;> rfl

/-- A kind of device is known by its name. -/
theorem DeviceClass.ofName?_name (device : DeviceClass) :
    Named.ofName? (Named.name device) = some device := by
  cases device <;> rfl

/-- A session whose numbers fit their width and whose times a clock shows. -/
structure GameSession.Representable (s : GameSession) : Prop where
  id : IsInt64 s.id
  trackId : IsInt64 s.trackId
  startTime : s.startTime.IsReading
  endTime : ∀ t ∈ s.endTime, t.IsReading
  movesCount : IsInt64 s.movesCount
  executionTime : ∀ n ∈ s.executionTime, IsInt64 n
  errorX : ∀ x ∈ s.errorX, IsInt32 x
  errorY : ∀ y ∈ s.errorY, IsInt32 y
  attempts : IsInt64 s.attempts
  cellsVisited : IsInt64 s.cellsVisited
  totalCells : IsInt64 s.totalCells

/-- A session is restored from its form. -/
theorem GameSession.restores {s : GameSession} (h : s.Representable) :
    decoder.Restores s.toJson s := by
  have hend := Restores.optional (fun _ => Json.noConfusion) fun t ht =>
    Restores.instant (h.endTime t ht)
  have htime := Restores.optional (fun _ => Json.noConfusion) fun n hn =>
    Restores.int64 (h.executionTime n hn)
  have herrorX := Restores.optional (fun _ => Json.noConfusion) fun x hx =>
    Restores.int32 (h.errorX x hx)
  have herrorY := Restores.optional (fun _ => Json.noConfusion) fun y hy =>
    Restores.int32 (h.errorY y hy)
  have hwrites := (writes_required "id" (.int64 h.id)).map GameSession.mk
    |>.seq (writes_required "sessionId" (.string s.sessionId))
    |>.seq (writes_required "trackId" (.int64 h.trackId))
    |>.seq (writes_required "startTime" (.instant h.startTime))
    |>.seq (writes_optional "endTime" hend)
    |>.seq (writes_required "status" (.name s.status.ofName?_name))
    |>.seq (writes_required "movesCount" (.int64 h.movesCount))
    |>.seq (writes_optional "executionTimeMs" htime)
    |>.seq (writes_optional "errorPositionX" herrorX)
    |>.seq (writes_optional "errorPositionY" herrorY)
    |>.seq (writes_optional "errorMessage" (.text s.errorMessage))
    |>.seq (writes_optional "ipAddress" (.text s.ipAddress))
    |>.seq (writes_optional "userAgent" (.text s.userAgent))
    |>.seq (writes_optional "screenResolution" (.text s.screen))
    |>.seq (writes_required "deviceType" (.name s.device.ofName?_name))
    |>.seq (writes_optional "movesSequence" (.text s.moves))
    |>.seq (writes_required "attemptsCount" (.int64 h.attempts))
    |>.seq (writes_required "cellsVisited" (.int64 h.cellsVisited))
    |>.seq (writes_required "totalCellsRequired" (.int64 h.totalCells))
  exact .record hwrites (by simp) (by simp)

/-- A report whose numbers fit their width. -/
structure ProgressReport.Representable (r : ProgressReport) : Prop where
  movesCount : ∀ n ∈ r.movesCount, IsInt64 n
  cellsVisited : ∀ n ∈ r.cellsVisited, IsInt64 n
  attempts : ∀ n ∈ r.attempts, IsInt64 n
  executionTime : ∀ n ∈ r.executionTime, IsInt64 n
  errorX : ∀ x ∈ r.errorX, IsInt32 x
  errorY : ∀ y ∈ r.errorY, IsInt32 y

namespace ProgressReport

variable {r : ProgressReport}

/-- The members of a report, of which those without a value are left out. -/
def slots (r : ProgressReport) : List (String × Option Json) :=
  [("movesCount", r.movesCount.map .whole),
    ("movesSequence", r.moves.map .string),
    ("cellsVisited", r.cellsVisited.map .whole),
    ("attemptsCount", r.attempts.map .whole),
    ("screenResolution", r.screen.map .string),
    ("status", r.status.map Named.toJson),
    ("executionTimeMs", r.executionTime.map .whole),
    ("errorMessage", r.errorMessage.map .string),
    ("errorPositionX", r.errorX.map .whole),
    ("errorPositionY", r.errorY.map .whole)]

/-- A report is written with the fields that it has. -/
theorem toJson_eq (r : ProgressReport) : r.toJson = .object (present r.slots) := by
  simp only [slots, present_cons, present_nil, Option.map_map]
  rfl

/-- A report is restored from its form, fields that are missing included. -/
theorem restores (h : r.Representable) : decoder.Restores r.toJson r := by
  have hnull : ∀ n : Int, Json.whole n ≠ .null := fun _ => Json.noConfusion
  have htext : ∀ (name : String) (a : Option String),
      Writes (.omittable name .string) [(name, a.map .string)] a := fun name a =>
    writes_skipped name (fun _ => Json.noConfusion) fun s _ => .string s
  have hstatus : Writes (.omittable "status" Named.decoder)
      [("status", r.status.map Named.toJson)] r.status :=
    writes_skipped "status" (fun _ => Json.noConfusion) fun status _ => .name status.ofName?_name
  have hwrites := (writes_skipped "movesCount" hnull fun n hn => .int64 (h.movesCount n hn)).map
      ProgressReport.mk
    |>.seq (htext "movesSequence" r.moves)
    |>.seq (writes_skipped "cellsVisited" hnull fun n hn => .int64 (h.cellsVisited n hn))
    |>.seq (writes_skipped "attemptsCount" hnull fun n hn => .int64 (h.attempts n hn))
    |>.seq (htext "screenResolution" r.screen)
    |>.seq hstatus
    |>.seq (writes_skipped "executionTimeMs" hnull fun n hn => .int64 (h.executionTime n hn))
    |>.seq (htext "errorMessage" r.errorMessage)
    |>.seq (writes_skipped "errorPositionX" hnull fun x hx => .int32 (h.errorX x hx))
    |>.seq (writes_skipped "errorPositionY" hnull fun y hy => .int32 (h.errorY y hy))
  rw [toJson_eq]
  exact .record hwrites (by simp) rfl

end ProgressReport

/-! ## Runs -/

/-- How a program ended is known by its name. -/
theorem RunStatus.ofName?_name (status : RunStatus) :
    Named.ofName? (Named.name status) = some status := by
  cases status <;> rfl

/-- A cell whose coordinates fit their width. -/
structure Position.Representable (p : Position) : Prop where
  x : IsInt32 p.x
  y : IsInt32 p.y

theorem Position.restores {p : Position} (h : p.Representable) : decoder.Restores p.toJson p := by
  have hwrites := (writes_required "x" (.int32 h.x)).map Position.mk
    |>.seq (writes_required "y" (.int32 h.y))
  exact .record hwrites (by simp) (by simp)

/-- A report on a run whose cells and counts fit their width. -/
structure Outcome.Representable (o : Outcome) : Prop where
  position : o.position.Representable
  cellsVisited : IsCount64 o.cellsVisited
  totalCells : IsCount64 o.totalCells
  movesExecuted : IsCount64 o.movesExecuted
  errorPosition : ∀ p ∈ o.errorPosition, p.Representable

/-- The outcome of a program is restored from its form, with the whole path. -/
theorem Outcome.restores {o : Outcome} (h : o.Representable) : decoder.Restores o.toJson o := by
  have herror := Restores.optional (fun _ => Json.noConfusion) fun p hp =>
    Position.restores (h.errorPosition p hp)
  have hwrites := (writes_required "status" (.name o.status.ofName?_name)).map Outcome.mk
    |>.seq (writes_required "position" (Position.restores h.position))
    |>.seq (writes_required "direction" (.name (TrackDocument.ofName?_heading o.heading)))
    |>.seq (writes_required "cellsVisited" (.count h.cellsVisited))
    |>.seq (writes_required "totalCellsRequired" (.count h.totalCells))
    |>.seq (writes_required "movesExecuted" (.count h.movesExecuted))
    |>.seq (writes_optional "errorPosition" herror)
    |>.seq (writes_optional "errorMessage" (.text o.errorMessage))
  exact .record hwrites (by simp) (by simp)

/-! ## Pages -/

/-- A page whose totals fit their width. -/
structure Page.Representable {α : Type} (p : Page α) : Prop where
  totalElements : IsCount64 p.totalElements
  totalPages : IsCount64 p.totalPages

/-- A page is restored if each of its rows is. -/
theorem Page.restores {α : Type} {row : Json.Decoder α} {encode : α → Json} {p : Page α}
    (h : p.Representable) (hrows : ∀ a ∈ p.content, row.Restores (encode a) a) :
    (decoder row).Restores (p.toJson encode) p := by
  have hwrites := (writes_required "content" (.list hrows)).map Page.mk
    |>.seq (writes_required "totalElements" (.count h.totalElements))
    |>.seq (writes_required "totalPages" (.count h.totalPages))
    |>.seq (writes_required "number" (.uint32 p.number))
    |>.seq (writes_required "size" (.uint32 p.size))
    |>.seq (writes_required "first" (.bool p.first))
    |>.seq (writes_required "last" (.bool p.last))
  exact .record hwrites (by simp) (by simp)

/-! ## Counts by key -/

/-- Counts with keys in order, each count within its width. -/
structure KeyedCounts {κ : Type} [LT κ] (counts : List (κ × Nat)) : Prop where
  sorted : (counts.map Prod.fst).Pairwise (· < ·)
  counts : ∀ e ∈ counts, IsCount64 e.2

/-- The actions of a user whose counts fit their width. -/
structure UserActions.Representable (s : UserActions) : Prop where
  counts : KeyedCounts s.counts
  total : IsCount64 s.total

/-- Numbers by kind are restored, in the order of the kinds. -/
theorem UserActions.countsDecoder_restores {counts : List (String × Nat)} (h : KeyedCounts counts) :
    countsDecoder.Restores (.object (counts.map fun (kind, n) => (kind, Json.count n))) counts :=
  .keyed String.lt_asymm h.sorted
    (.table (fun e _ => (rfl : some (id e.1) = some e.1)) fun e he => .count (h.counts e he))

/-- The figures of what users did are restored from their form. -/
theorem UserActions.restores {s : UserActions} (h : s.Representable) :
    decoder.Restores s.toJson s := by
  have hwrites := (writes_required "username" (.string s.username)).map UserActions.mk
    |>.seq (writes_required "actionCounts" (countsDecoder_restores h.counts))
    |>.seq (writes_required "totalActions" (.count h.total))
  exact .record hwrites (by simp) (by simp)

namespace Json.Reading

/-- A key without a sign is read by its digits. -/
theorem int32Key?_digits {key : String} {n : Nat} (hkey : key.toList = Nat.toDigits 10 n)
    (hn : IsInt32 n) : int32Key? key = some (n : Int) := by
  obtain ⟨c, more, hcons⟩ := List.exists_cons_of_ne_nil
    (List.ne_nil_of_length_pos (Nat.length_toDigits_pos (b := 10) (n := n)))
  have hc : c.isDigit = true := Nat.isDigit_of_mem_toDigits (by decide) (by decide)
    (hcons ▸ List.mem_cons_self)
  have hfits : n ≤ Decimal.maxSignificand := by
    have hlt := hn.2
    simp only [Decimal.maxSignificand]
    omega
  have hnumber := numberAt_toDigits hfits endsValue_nil
  rw [List.append_nil, hcons] at hnumber
  have hsign : ∀ rest, c :: more ≠ '-' :: rest := fun rest heq =>
    ne_of_isDigit hc (rfl : '-'.isDigit = false) (List.cons.inj heq).1
  simp only [int32Key?, hkey, hcons]
  rw [hnumber]
  exact if_pos hn

/-- A key with a sign is read by the digits after it. -/
theorem int32Key?_minus {key : String} {n : Nat} (hkey : key.toList = '-' :: Nat.toDigits 10 n)
    (hpos : 0 < n) (hn : IsInt32 (-n)) : int32Key? key = some (-n : Int) := by
  have hlow := hn.1
  have hnumber := numberAt_minus hpos (by omega) endsValue_nil
  rw [List.append_nil] at hnumber
  simp only [int32Key?, hkey, hnumber]
  exact if_pos hn

/-- The number that is the name of a member is read back. -/
theorem int32Key?_toString {n : Int} (h : IsInt32 n) : int32Key? (toString n) = some n := by
  cases n with
  | ofNat m => exact int32Key?_digits (numberChars_ofNat m) h
  | negSucc m => exact int32Key?_minus (numberChars_negSucc m) (Nat.succ_pos m) h

end Json.Reading

/-- The active tracks by level, whose levels and counts fit their width. -/
structure LevelCounts.Representable (s : LevelCounts) : Prop where
  totalActive : IsCount64 s.totalActive
  byLevel : KeyedCounts s.byLevel
  levels : ∀ e ∈ s.byLevel, IsInt32 e.1

/-- Numbers by level are restored, though their keys are texts. -/
theorem LevelCounts.levelsDecoder_restores {byLevel : List (Int × Nat)} (h : KeyedCounts byLevel)
    (hlevels : ∀ e ∈ byLevel, IsInt32 e.1) :
    levelsDecoder.Restores (.object (byLevel.map fun (level, n) => (toString level, Json.count n)))
      byLevel :=
  .keyed Int.lt_asymm h.sorted
    (.table (fun e he => Json.Reading.int32Key?_toString (hlevels e he))
      fun e he => .count (h.counts e he))

/-- The figures of levels are restored from their form. -/
theorem LevelCounts.restores {s : LevelCounts} (h : s.Representable) :
    decoder.Restores s.toJson s := by
  have hwrites := (writes_required "totalActive" (.count h.totalActive)).map LevelCounts.mk
    |>.seq (writes_required "byDifficulty" (levelsDecoder_restores h.byLevel h.levels))
  exact .record hwrites (by simp) (by simp)

/-! ## Other figures -/

/-- Counts by day that fit their width. -/
structure ActivitySeries.Representable (s : ActivitySeries) : Prop where
  audit : ∀ n ∈ s.audit, IsCount64 n
  games : ∀ n ∈ s.games, IsCount64 n

/-- The activity of the last days is restored from its form. -/
theorem ActivitySeries.restores {s : ActivitySeries} (h : s.Representable) :
    decoder.Restores s.toJson s := by
  have hlabels := Restores.list fun label (_ : label ∈ s.labels) => Restores.string label
  have haudit := Restores.list fun n hn => Restores.count (h.audit n hn)
  have hgames := Restores.list fun n hn => Restores.count (h.games n hn)
  have hwrites := (writes_required "labels" hlabels).map ActivitySeries.mk
    |>.seq (writes_required "auditActivity" haudit)
    |>.seq (writes_required "gameActivity" hgames)
    |>.seq (writes_required "period" (.string s.period))
  exact .record hwrites (by simp) (by simp)

/-- The changes of one resource, whose count fits its width. -/
structure ResourceCount.Representable (s : ResourceCount) : Prop where
  modifications : IsCount64 s.modifications

theorem ResourceCount.restores {s : ResourceCount} (h : s.Representable) :
    decoder.Restores s.toJson s := by
  have hwrites := (writes_required "resourceType" (.string s.resourceType)).map ResourceCount.mk
    |>.seq (writes_optional "resourceName" (.text s.resourceName))
    |>.seq (writes_required "modifications" (.count h.modifications))
  exact .record hwrites (by simp) (by simp)

/-! ## Texts -/

/-- Whatever was written is read back, whatever its texts hold and whatever is missing in it. -/
theorem textsDecodeTo_of_representable :
    (∀ t : Track, t.Representable → TextsDecodeTo Track.decoder t.toJson t)
    ∧ (∀ s : GameSession, s.Representable → TextsDecodeTo GameSession.decoder s.toJson s)
    ∧ (∀ e : AuditEntry, e.Representable → TextsDecodeTo AuditEntry.decoder e.toJson e)
    ∧ (∀ s : LoginSession, s.Representable → TextsDecodeTo LoginSession.decoder s.toJson s)
    ∧ (∀ d : TrackDocument, d.Representable → TextsDecodeTo TrackDocument.decoder d.toJson d)
    ∧ (∀ o : Outcome, o.Representable → TextsDecodeTo Outcome.decoder o.toJson o)
    ∧ (∀ p : Page Int, p.Representable → (∀ n ∈ p.content, IsInt64 n) →
      TextsDecodeTo (Page.decoder .int64) (p.toJson .whole) p)
    ∧ (∀ s : LevelCounts, s.Representable → TextsDecodeTo LevelCounts.decoder s.toJson s)
    ∧ (∀ s : UserActions, s.Representable → TextsDecodeTo UserActions.decoder s.toJson s)
    ∧ (∀ s : ActivitySeries, s.Representable → TextsDecodeTo ActivitySeries.decoder s.toJson s)
    ∧ (∀ s : ResourceCount, s.Representable → TextsDecodeTo ResourceCount.decoder s.toJson s)
    ∧ (∀ r : ProgressReport, r.Representable → TextsDecodeTo ProgressReport.decoder r.toJson r)
    ∧ (∀ u : User, u.Representable →
      TextsDecodeTo User.decoder u.toJson { u with passwordHash := .empty }) := by
  refine ⟨fun t h => (Track.restores h).decode_eq, fun s h => (GameSession.restores h).decode_eq,
    fun e h => (AuditEntry.restores h.writable).decode_eq,
    fun s h => (LoginSession.restores h).decode_eq,
    fun d h => (TrackDocument.restores_self h).decode_eq,
    fun o h => (Outcome.restores h).decode_eq, fun p h hrows => ?_,
    fun s h => (LevelCounts.restores h).decode_eq, fun s h => (UserActions.restores h).decode_eq,
    fun s h => (ActivitySeries.restores h).decode_eq,
    fun s h => (ResourceCount.restores h).decode_eq,
    fun r h => (ProgressReport.restores h).decode_eq, fun u h => (User.restores h).decode_eq⟩
  exact (Page.restores h fun n hn => .int64 (hrows n hn)).decode_eq

/-- A document of each kind, with texts to be escaped, members left out and times with places. -/
theorem textsDecodeTo_of_representable_samples :
    let time : Instant := ⟨1700000000, 120000000⟩
    let track : Track :=
      ⟨7, "Zick \"Zack\"\n", "###\n#.#", 1, -1, .north, time, ⟨1700000001, 1⟩, none, true, 3, some "é"⟩
    let game : GameSession :=
      ⟨1, "s", 7, time, some time, .failed, 4, some 900, some (-1), none, some "\t", none,
        some "Mobile", none, .mobile, some "FFL", 1, 2, 9⟩
    let entry : AuditEntry :=
      ⟨-1, "system", "start", .login, "USER", none, some "eva", none, time, none, none, .incomplete,
        some "\\"⟩
    let login : LoginSession := ⟨"t", 3, time, ⟨1700003600, 0⟩, some "::1", none⟩
    let document : TrackDocument := ⟨"a", "###", 0, 0, .west, 10, none, "1.0", some time⟩
    let outcome : Outcome := ⟨.failed, ⟨1, 1⟩, .south, 2, 5, 3, some ⟨1, 2⟩, some "blocked"⟩
    let page : Page Int := ⟨[1, -2], 12, 6, 0, 2, true, false⟩
    let levels : LevelCounts := ⟨3, [(-1, 1), (10, 2)]⟩
    let actions : UserActions := ⟨"eva", [("CREATE", 2), ("LOGIN", 1)], 3⟩
    let series : ActivitySeries := ⟨["Mon", ""], [0, 1], [2], "7d"⟩
    let changes : ResourceCount := ⟨"TRACK", none, 4⟩
    let report : ProgressReport := { movesCount := some 4, status := some .success, errorY := some 2 }
    let user : User :=
      ⟨2, "eva", .ofKey ⟨10, [7]⟩ [1, 2], "e@x.de", "Eva", .superAdmin, true, time, none, none⟩
    TextsDecodeTo Track.decoder track.toJson track
    ∧ TextsDecodeTo GameSession.decoder game.toJson game
    ∧ TextsDecodeTo AuditEntry.decoder entry.toJson entry
    ∧ TextsDecodeTo LoginSession.decoder login.toJson login
    ∧ TextsDecodeTo TrackDocument.decoder document.toJson document
    ∧ TextsDecodeTo Outcome.decoder outcome.toJson outcome
    ∧ TextsDecodeTo (Page.decoder .int64) (page.toJson .whole) page
    ∧ TextsDecodeTo LevelCounts.decoder levels.toJson levels
    ∧ TextsDecodeTo UserActions.decoder actions.toJson actions
    ∧ TextsDecodeTo ActivitySeries.decoder series.toJson series
    ∧ TextsDecodeTo ResourceCount.decoder changes.toJson changes
    ∧ TextsDecodeTo ProgressReport.decoder report.toJson report
    ∧ TextsDecodeTo User.decoder user.toJson { user with passwordHash := .empty } := by
  obtain ⟨htrack, hgame, hentry, hlogin, hdocument, houtcome, hpage, hlevels, hactions, hseries,
    hchanges, hreport, huser⟩ := textsDecodeTo_of_representable
  have htime : Instant.IsReading ⟨1700000000, 120000000⟩ := by decide
  have hnone : ∀ P : Int → Prop, ∀ n ∈ (none : Option Int), P n := fun _ _ h => nomatch h
  have hsome : ∀ {α : Type} {P : α → Prop} {a : α}, P a → ∀ x ∈ some a, P x := by
    intro α P a ha x hx
    exact Option.some.inj hx ▸ ha
  refine ⟨htrack _ ⟨by decide, by decide, by decide, htime, by decide, by decide⟩,
    hgame _ ⟨by decide, by decide, htime, hsome htime, by decide, hsome (by decide),
      hsome (by decide), hnone _, by decide, by decide, by decide⟩,
    hentry _ ⟨by decide, htime⟩, hlogin _ ⟨by decide, htime, by decide⟩,
    hdocument _ ⟨by decide, by decide, by decide, hsome htime⟩,
    houtcome _ ⟨⟨by decide, by decide⟩, by decide, by decide, by decide,
      hsome ⟨by decide, by decide⟩⟩,
    hpage _ ⟨by decide, by decide⟩ (by decide),
    hlevels _ ⟨by decide, ⟨by decide, by decide⟩, by decide⟩,
    hactions _ ⟨⟨by decide, by decide⟩, by decide⟩, hseries _ ⟨by decide, by decide⟩,
    hchanges _ ⟨by decide⟩,
    hreport _ ⟨hsome (by decide), hnone _, hnone _, hnone _, hnone _, hsome (by decide)⟩,
    huser _ ⟨by decide, htime, fun _ h => nomatch h⟩⟩

end RobotMaze
