import RobotMaze.Proofs.Session.Writes
import RobotMaze.Proofs.Store.Listing

/-! # Empty texts in the rows of sessions

    An empty optional text of a session is read as a missing one.  So a store can
    hold it or not, and what only reads answers the same:

    * `SessionRow.plain` — a row whose empty texts are missing, `Store.plain` — a
      store that has such rows only;
    * `Op.SeesPlain` — an operation reads, and answers the same when all texts that
      are empty are missing;
    * `Games.Call.seesPlain`, `Reports.Call.seesPlain` — so do the calls that read
      sessions. -/

namespace RobotMaze

open Time (Instant)

/-- A row of a session whose empty texts are missing. -/
def SessionRow.plain (r : SessionRow) : SessionRow :=
  { r with
    errorMessage := readText r.errorMessage
    ipAddress := readText r.ipAddress
    userAgent := readText r.userAgent
    screen := readText r.screen
    moves := readText r.moves }

namespace SessionRow

theorem id_plain (r : SessionRow) : Row.id r.plain = Row.id r := rfl

/-- There is nothing left to make plain the second time. -/
theorem plain_plain (r : SessionRow) : r.plain.plain = r.plain := by
  simp only [plain, readText_readText]

/-- What is read is the same. -/
theorem read_plain (r : SessionRow) : r.plain.read = r.read := by
  simp only [read, plain, readText_readText]

/-- Rows are read the same, plain or not. -/
theorem mapM_read_plain (rows : List SessionRow) : (rows.map plain).mapM read = rows.mapM read := by
  rw [List.mapM_map]
  exact congrArg (fun f => rows.mapM f) (funext read_plain)

end SessionRow

/-- A database whose sessions have no empty texts. -/
def Database.plain (db : Database) : Database :=
  { db with sessions := db.sessions.mapRows SessionRow.plain }

/-- A store whose sessions have no empty texts. -/
def Store.plain (s : Store) : Store := { s with database := s.database.plain }

/-! ## Questions about sessions -/

namespace Database

variable (db : Database)

/-- A session is found under its id in the plain store, as a plain row. -/
theorem sessionById_plain (sessionId : String) :
    db.plain.sessionById sessionId = (db.sessionById sessionId).map SessionRow.plain :=
  List.find?_map ..

/-- A filter accepts the same sessions of the plain store. -/
theorem sessionsAccepted_plain (f : SessionFilter) :
    db.plain.sessionsAccepted f = (db.sessionsAccepted f).map SessionRow.plain :=
  List.filter_map ..

/-- A page holds the same sessions of the plain store. -/
theorem pageOfSessions_plain (f : SessionFilter) (p : PageRequest) :
    db.plain.pageOfSessions f p = (db.pageOfSessions f p).map (List.map SessionRow.plain) := by
  simp only [pageOfSessions, sessionsAccepted_plain]
  rw [newestFirst_map SessionRow.id_plain fun _ => rfl, pageOf_map]

/-- The latest sessions are the same ones in the plain store. -/
theorem recentSessions_plain (limit : UInt32) :
    db.plain.recentSessions limit = (db.recentSessions limit).map SessionRow.plain := by
  simp only [recentSessions, List.map_take]
  rw [← newestFirst_map SessionRow.id_plain fun _ => rfl]
  rfl

/-- The sessions since a time are the same ones in the plain store. -/
theorem sessionsSince_plain (since : Instant) :
    db.plain.sessionsSince since = (db.sessionsSince since).map SessionRow.plain :=
  List.filter_map ..

theorem countSessions_plain : db.plain.countSessions = db.countSessions := List.length_map ..

theorem countSessionsIn_plain (status : SessionStatus) :
    db.plain.countSessionsIn status = db.countSessionsIn status := List.countP_map ..

end Database

/-! ## Operations that read -/

namespace Op

variable {α β : Type}

/-- An operation only reads, and it answers the same when all empty texts are missing. -/
structure SeesPlain (op : Op α) : Prop where
  reads : op.Reads
  answer_plain : ∀ s : Store, op.answer s.plain = op.answer s

/-- What answers at once sees nothing. -/
@[grind ←]
theorem seesPlain_pure (a : α) : (pure a : Op α).SeesPlain := ⟨keeps_pure a, fun _ => rfl⟩

/-- What fails at once sees nothing. -/
@[grind ←]
theorem seesPlain_throw (e : Failure) : (throw e : Op α).SeesPlain :=
  ⟨keeps_throw e, fun _ => rfl⟩

@[grind ←]
theorem seesPlain_ofCheck (x : Except Violation α) : (ofCheck x).SeesPlain :=
  ⟨keeps_ofCheck x, fun _ => by rw [answer_ofCheck, answer_ofCheck]⟩

@[grind ←]
theorem seesPlain_ofRead (x : Read α) : (ofRead x).SeesPlain :=
  ⟨keeps_ofRead x, fun _ => by rw [answer_ofRead, answer_ofRead]⟩

/-- Two computations that see plain rows only do so one after the other. -/
@[grind ←]
theorem seesPlain_bind {x : Op α} {f : α → Op β} (hx : x.SeesPlain)
    (hf : ∀ a, (f a).SeesPlain) : (x >>= f).SeesPlain := by
  refine ⟨keeps_bind hx.reads fun a => (hf a).reads, fun s => ?_⟩
  rw [hx.reads.answer_bind, hx.reads.answer_bind, hx.answer_plain]
  cases x.answer s with
  | ok a => exact (hf a).answer_plain s
  | error e => rfl

/-- A question with the same answer in the plain store sees plain rows only. -/
theorem seesPlain_query {f : Database → α} (hf : ∀ db : Database, f db.plain = f db) :
    (query f).SeesPlain :=
  ⟨keeps_query f, fun s => congrArg Except.ok (hf s.database)⟩

/-- A question that may meet an unreadable row, with the same answer in the plain store. -/
theorem seesPlain_queryRead {f : Database → Read α} (hf : ∀ db : Database, f db.plain = f db) :
    (queryRead f).SeesPlain :=
  ⟨keeps_queryRead f, fun s => hf s.database⟩

/-- A question is answered with rows, of which only what is read matters. -/
theorem seesPlain_query_bind {f : Database → α} {k : α → Op β} {g : α → α}
    (hf : ∀ db : Database, f db.plain = g (f db)) (hg : ∀ a, k (g a) = k a)
    (hk : ∀ a, (k a).SeesPlain) : (query f >>= k).SeesPlain := by
  refine ⟨keeps_bind (keeps_query f) fun a => (hk a).reads, fun s => ?_⟩
  show (k (f s.database.plain)).answer s.plain = (k (f s.database)).answer s
  rw [hf, hg, (hk _).answer_plain]

/-- A question whose rows come out plain is fine where what follows does not tell them apart. -/
theorem seesPlain_queryRead_bind {f : Database → Read α} {k : α → Op β} {g : α → α}
    (hf : ∀ db : Database, f db.plain = (f db).map g) (hg : ∀ a, k (g a) = k a)
    (hk : ∀ a, (k a).SeesPlain) : (queryRead f >>= k).SeesPlain := by
  have hreads : (queryRead f).Reads := keeps_queryRead f
  refine ⟨keeps_bind hreads fun a => (hk a).reads, fun s => ?_⟩
  have hplain : (queryRead f).answer s.plain = (f s.database).map g := hf s.database
  rw [hreads.answer_bind, hreads.answer_bind, hplain, answer_queryRead]
  cases f s.database with
  | ok a =>
      show (k (g a)).answer s.plain = (k a).answer s
      rw [hg, (hk a).answer_plain]
  | error e => rfl

end Op

/-! ## Games -/

namespace Games

/-- Reading plain rows gives the same sessions. -/
theorem readAll_plain (rows : List SessionRow) :
    readAll (rows.map SessionRow.plain) = readAll rows := by
  simp only [readAll, SessionRow.mapM_read_plain]

theorem seesPlain_readAll (rows : List SessionRow) : (readAll rows).SeesPlain :=
  Op.seesPlain_ofRead _

/-- A session is shown as its plain row tells it. -/
theorem seesPlain_get (sessionId : String) : (get sessionId).SeesPlain := by
  refine Op.seesPlain_query_bind (fun db => db.sessionById_plain sessionId) ?_ ?_
  · rintro (_ | row)
    · rfl
    · exact congrArg Op.ofRead row.read_plain
  · rintro (_ | row)
    · exact Op.seesPlain_throw _
    · exact Op.seesPlain_ofRead _

/-- A page of sessions is shown as the plain rows tell it. -/
theorem seesPlain_page (f : Database.SessionFilter) (p : PageRequest) : (page f p).SeesPlain := by
  refine Op.seesPlain_bind (Op.seesPlain_query fun db => ?_) fun total => ?_
  · rw [db.sessionsAccepted_plain, List.length_map]
  · refine Op.seesPlain_queryRead_bind (fun db => db.pageOfSessions_plain f p) ?_ fun rows => ?_
    · intro rows
      simp only [readAll_plain]
    · exact Op.seesPlain_bind (seesPlain_readAll rows) fun _ => Op.seesPlain_pure _

/-- The latest sessions are shown as the plain rows tell them. -/
theorem seesPlain_recent (limit : UInt32) : (recent limit).SeesPlain :=
  Op.seesPlain_query_bind (fun db => db.recentSessions_plain limit) readAll_plain seesPlain_readAll

theorem seesPlain_totals : totals.SeesPlain := by
  refine Op.seesPlain_query fun db => ?_
  simp only [db.countSessions_plain, db.countSessionsIn_plain]

end Games

/-! ## Reports -/

namespace Reports

/-- Mapped rows are grouped by what their key says of the unmapped ones. -/
theorem groups_map {ρ : Type} (key : ρ → String) (f : ρ → ρ) (rows : List ρ) :
    groups key (rows.map f)
      = (groups (fun r => key (f r)) rows).map fun group => (group.1, group.2.map f) := by
  simp only [groups, List.map_map, List.filter_map, Function.comp_def]

/-- Plain sessions are grouped under the same tracks. -/
theorem sessionsByTrack_plain (rows : List SessionRow) (db : Database) :
    sessionsByTrack (rows.map SessionRow.plain) db.plain
      = (sessionsByTrack rows db).map fun group => (group.1, group.2.map SessionRow.plain) := by
  have htracks : db.plain.tracks = db.tracks := rfl
  have htrackId : ∀ r : SessionRow, r.plain.trackId = r.trackId := fun _ => rfl
  simp only [sessionsByTrack, htracks, List.filter_map, List.map_map, Function.comp_def, htrackId,
    List.isEmpty_map]

/-- Groups are sorted by their averages, whatever else is in them. -/
theorem mergeSort_fst_map {α β : Type} (f : α → β) (groups : List (Float × α)) :
    (groups.map (Prod.map id f)).mergeSort (fun a b => a.1 ≤ b.1)
      = (groups.mergeSort fun a b => a.1 ≤ b.1).map (Prod.map id f) :=
  (List.map_mergeSort (f := Prod.map id f) fun _ _ _ _ => rfl).symm

/-- The rate of success counts states, which plain rows keep. -/
theorem successRate_plain (db : Database) : successRate db.plain = successRate db := by
  simp only [successRate, db.countSessions_plain, db.countSessionsIn_plain]

/-! What is collected of rows does not depend on their texts. -/

section Rows

variable (rows : List SessionRow)

/-- As many plain sessions were won. -/
theorem countP_isSuccess_plain :
    (rows.map SessionRow.plain).countP isSuccess = rows.countP isSuccess := List.countP_map ..

/-- As many plain sessions were lost. -/
theorem countP_isFailed_plain :
    (rows.map SessionRow.plain).countP isFailed = rows.countP isFailed := List.countP_map ..

theorem map_movesCount_plain :
    (rows.map SessionRow.plain).map SessionRow.movesCount = rows.map SessionRow.movesCount :=
  List.map_map ..

theorem filterMap_executionTime_plain :
    (rows.map SessionRow.plain).filterMap SessionRow.executionTime
      = rows.filterMap SessionRow.executionTime := List.filterMap_map ..

theorem filter_isSuccess_plain : (rows.map SessionRow.plain).filter isSuccess
    = (rows.filter isSuccess).map SessionRow.plain := List.filter_map ..

theorem filter_isFailed_plain : (rows.map SessionRow.plain).filter isFailed
    = (rows.filter isFailed).map SessionRow.plain := List.filter_map ..

/-- Empty messages are no errors. -/
theorem messages_plain :
    ((rows.map SessionRow.plain).filterMap SessionRow.errorMessage).filter (fun m => !m.isEmpty)
      = (rows.filterMap SessionRow.errorMessage).filter fun m => !m.isEmpty := by
  rw [List.filterMap_map, List.filter_filterMap, List.filter_filterMap]
  refine congrArg (fun f => rows.filterMap f) (funext fun r => ?_)
  show (readText r.errorMessage).filter _ = r.errorMessage.filter _
  rw [← readText, ← readText, readText_readText]

end Rows

/-- The dashboard is made of plain rows. -/
theorem seesPlain_dashboard (now : Instant) : (dashboard now).SeesPlain := by
  refine Op.seesPlain_query fun db => ?_
  simp only [db.sessionsSince_plain, List.length_map, successRate_plain]
  rfl

/-- The figures of the last days are made of plain rows. -/
theorem seesPlain_days (count : UInt32) (now : Instant) : (days count now).SeesPlain := by
  refine Op.seesPlain_query fun db => ?_
  simp only [db.sessionsSince_plain, groups_map, List.map_map, Function.comp_def, List.length_map,
    countP_isSuccess_plain, countP_isFailed_plain]
  rfl

/-- The figures of the tracks are made of plain rows. -/
theorem seesPlain_tracks (now : Instant) : (tracks now).SeesPlain := by
  refine Op.seesPlain_query fun db => ?_
  simp only [db.sessionsSince_plain, sessionsByTrack_plain, List.map_map, Function.comp_def,
    List.length_map, countP_isSuccess_plain]
  rfl

/-- Devices are told from the column that plain rows keep. -/
theorem seesPlain_devices (now : Instant) : (devices now).SeesPlain := by
  refine Op.seesPlain_query fun db => ?_
  simp only [db.sessionsSince_plain, groups_map, List.map_map, Function.comp_def, List.length_map,
    countP_isSuccess_plain]
  rfl

/-- Times of play are told from plain rows. -/
theorem seesPlain_times (now : Instant) : (times now).SeesPlain := by
  have htimed : ∀ rows : List SessionRow,
      (rows.map SessionRow.plain).filter (fun r => isSuccess r && r.executionTime.isSome)
        = (rows.filter fun r => isSuccess r && r.executionTime.isSome).map SessionRow.plain :=
    fun _ => List.filter_map ..
  refine Op.seesPlain_query fun db => ?_
  simp only [db.sessionsSince_plain, htimed, sessionsByTrack_plain, List.map_map,
    Function.comp_def, filterMap_executionTime_plain]
  -- groups are sorted by their averages, which do not depend on any text of their rows
  have hplain := mergeSort_fst_map (Prod.map id (List.map SessionRow.plain)) ((sessionsByTrack
    ((db.sessionsSince (daysAgo now recentDays)).filter fun r =>
      isSuccess r && r.executionTime.isSome) db).map fun group =>
    (average (group.2.filterMap SessionRow.executionTime), group))
  rw [List.map_map] at hplain
  refine (congrArg (List.map _) hplain).trans ?_
  rw [List.map_map]
  simp only [Function.comp_def, Prod.map, id, map_movesCount_plain, List.length_map]

/-- Failures are told from plain rows. -/
theorem seesPlain_errors (now : Instant) : (errors now).SeesPlain := by
  refine Op.seesPlain_query fun db => ?_
  simp only [db.sessionsSince_plain, filter_isFailed_plain, messages_plain]

/-- The overview is made of plain rows. -/
theorem seesPlain_overview (now : Instant) : (overview now).SeesPlain := by
  refine Op.seesPlain_query fun db => ?_
  simp only [db.sessionsSince_plain, List.length_map, countP_isSuccess_plain,
    countP_isFailed_plain, map_movesCount_plain, filterMap_executionTime_plain]

/-- The figures of the players are made of plain rows. -/
theorem seesPlain_players (now : Instant) : (players now).SeesPlain := by
  refine Op.seesPlain_query fun db => ?_
  simp only [db.sessionsSince_plain, List.length_map, db.countSessionsIn_plain, successRate_plain]
  rfl

/-- The activity of the last days is made of plain rows. -/
theorem seesPlain_activity (count : UInt32) (now : Instant) : (activity count now).SeesPlain := by
  have hupTo : ∀ rows : List SessionRow,
      (rows.map SessionRow.plain).filter (fun r => r.startTime ≤ now.stamp)
        = (rows.filter fun r => r.startTime ≤ now.stamp).map SessionRow.plain := by
    intro rows
    rw [List.filter_map]
    simp only [Function.comp_def]
    rfl
  simp only [activity]
  refine Op.seesPlain_query fun db => ?_
  simp only [db.sessionsSince_plain, hupTo, List.map_map]
  rfl

/-- All figures together are made of plain rows. -/
theorem seesPlain_complete (count : UInt32) (now : Instant) : (complete count now).SeesPlain := by
  refine Op.seesPlain_query fun db => ?_
  have hrows : db.plain.sessions.rows = db.sessions.rows.map SessionRow.plain := rfl
  simp only [hrows, db.sessionsSince_plain, db.countSessionsIn_plain, sessionsByTrack_plain,
    filter_isSuccess_plain, filterMap_executionTime_plain, List.length_map, List.map_map,
    Function.comp_def, countP_isSuccess_plain, byHour]
  rfl

end Reports

end RobotMaze
