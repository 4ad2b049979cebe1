import RobotMaze.Proofs.Service.Seen
import RobotMaze.Proofs.Session.Life

/-! # Updated sessions — what a report on a session leaves alone

    A report is put into a session that was read from its row, and all of the row is
    written again.  If that succeeds:

    * `ProgressReport.onto` — what is read of the session has the reported values,
      and its old ones in all other fields;
    * `Games.Updated` — its row is the only one of any table that is different;
    * `GameSession.rowAt_eq_plain` — a session is written back as the row that there
      was, with empty texts missing, which nobody can see;
    * `GameSession.eq_onto` — what is read of it after a report;
    * `Games.update_updated` — so ends every update whose sessions share no id and
      were written by the service. -/

namespace RobotMaze

open Time (Instant)

namespace ProgressReport

variable (r : ProgressReport) (s : GameSession)

/-- A report moves a session to a state that it was not in. -/
def Enters (status : SessionStatus) : Prop := r.status = some status ∧ s.status ≠ status

instance (status : SessionStatus) : Decidable (r.Enters s status) :=
  inferInstanceAs (Decidable (_ ∧ _))

/-- A session after a report, as it is read.  An empty text is a missing one; the end and the
    execution time belong to a session that is won or lost by the report, what went wrong to one
    that is lost. -/
def onto (now : Instant) : GameSession :=
  { s with
    status := r.status.getD s.status
    movesCount := r.movesCount.getD s.movesCount
    moves := r.moves.elim s.moves fun text => if text = "" then none else some text
    cellsVisited := r.cellsVisited.getD s.cellsVisited
    attempts := r.attempts.getD s.attempts
    screen := r.screen.elim s.screen fun text => if text = "" then none else some text
    endTime := if r.Enters s .success ∨ r.Enters s .failed then some now.stamped else s.endTime
    executionTime :=
      if r.Enters s .success ∨ r.Enters s .failed then r.executionTime <|> s.executionTime
      else s.executionTime
    errorMessage :=
      if r.Enters s .failed then
        r.errorMessage.elim s.errorMessage fun text => if text = "" then none else some text
      else s.errorMessage
    errorX := if r.Enters s .failed then r.errorX <|> s.errorX else s.errorX
    errorY := if r.Enters s .failed then r.errorY <|> s.errorY else s.errorY }

/-- A report that gives no field of a session a new value. -/
structure Idle : Prop where
  movesCount : r.movesCount = none
  moves : r.moves = none
  cellsVisited : r.cellsVisited = none
  attempts : r.attempts = none
  screen : r.screen = none
  status : ∀ status ∈ r.status, status = s.status

variable {r s}

/-- An idle report is put into a session without any effect. -/
theorem Idle.applyTo {now : Instant} {next : GameSession} (h : r.Idle s)
    (happlied : r.applyTo now s = .ok next) : next = s := by
  obtain ⟨hmovesCount, hmoves, hcellsVisited, hattempts, hscreen, hstatus⟩ := h
  rcases applyTo_cases happlied with ⟨-, rfl⟩ | ⟨status, hnamed, hstart, hfinal, -⟩
  · simp only [applyCounters, hmovesCount, hmoves, hcellsVisited, hattempts, hscreen]
    rfl
  · exact absurd ((hstatus status hnamed).trans hstart) hfinal

end ProgressReport

/-! ## The row of a session that was read -/

/-- A given text comes before one that is read as itself. -/
theorem readText_orElse {given text : Option String} (htext : readText text = text) :
    readText (given <|> text)
      = given.elim text fun text => if text = "" then none else some text := by
  cases given with
  | none => exact htext
  | some text =>
      show readText (some text) = if text = "" then none else some text
      rw [readText_eq_filter, Option.filter_some]
      by_cases hempty : text = ""
      · simp [hempty]
      · simp [hempty]

namespace GameSession

/-- What is read from the row of a session is the session with its times to the millisecond and
    empty texts missing. -/
theorem eq_readBack {s game : GameSession} {id : Int} (h : (s.rowAt id).read = .ok game) :
    game = { s.readBack s.startTime.stamped (s.endTime.map Instant.stamped) with id } := by
  obtain ⟨startTime, endTime, device, hstartTime, hendTime, hdevice, rfl⟩ :=
    SessionRow.fields_of_read h
  obtain ⟨-, rfl⟩ := readTime_stamp_ok hstartTime
  obtain rfl := readTimeOpt_stamp_ok hendTime
  obtain rfl : s.device = device :=
    Except.ok.inj ((readName_device s.device).symm.trans hdevice)
  rfl

/-- A session that was read from a row is written back as this row, with empty texts missing. -/
theorem rowAt_eq_plain {row : SessionRow} (hrow : row.Written) {game : GameSession}
    (hread : row.read = .ok game) : game.rowAt row.id = row.plain := by
  obtain ⟨source, id, rfl, -⟩ := hrow
  obtain rfl := eq_readBack hread
  have hend : (source.endTime.map Instant.stamped).map Instant.stamp
      = source.endTime.map Instant.stamp := by
    rw [Option.map_map]
    exact congrArg (fun f => source.endTime.map f) (funext Instant.stamp_stamped)
  simp only [rowAt, SessionRow.ofSession, SessionRow.plain, readBack, Instant.stamp_stamped, hend]

variable {row : SessionRow} {game next updated : GameSession} {report : ProgressReport}
  {now : Instant}

/-- What is read of a session once a report was put into it. -/
theorem eq_onto (hrow : row.Written) (hread : row.read = .ok game)
    (happlied : report.applyTo now game = .ok next)
    (hupdated : (next.rowAt row.id).read = .ok updated) : updated = report.onto game now := by
  obtain rfl := eq_readBack hupdated
  -- the session was read as it would be read of the row that it is written back as
  have hself : (game.rowAt row.id).read = .ok game := by
    rw [rowAt_eq_plain hrow hread, row.read_plain, hread]
  have hsame := eq_readBack hself
  have hid : row.id = game.id := (congrArg GameSession.id hsame).symm
  have hstart : game.startTime.stamped = game.startTime :=
    (congrArg GameSession.startTime hsame).symm
  have hend : game.endTime.map Instant.stamped = game.endTime :=
    (congrArg GameSession.endTime hsame).symm
  have hmessage : readText game.errorMessage = game.errorMessage :=
    (congrArg GameSession.errorMessage hsame).symm
  have hip : readText game.ipAddress = game.ipAddress := (congrArg GameSession.ipAddress hsame).symm
  have hagent : readText game.userAgent = game.userAgent :=
    (congrArg GameSession.userAgent hsame).symm
  have hscreen : readText game.screen = game.screen := (congrArg GameSession.screen hsame).symm
  have hmoves : readText game.moves = game.moves := (congrArg GameSession.moves hsame).symm
  rcases ProgressReport.applyTo_cases happlied with
    ⟨hnamed, rfl⟩ | ⟨status, hnamed, hinProgress, hfinal, rfl⟩
  · have hstays : ∀ status, ¬report.Enters game status := fun status h =>
      h.2 (hnamed status h.1).symm
    have hstatus : report.status.getD game.status = game.status := by
      cases hgiven : report.status with
      | none => rfl
      | some status => exact hnamed status hgiven
    simp only [readBack, ProgressReport.applyCounters, ProgressReport.onto, hstays, hstatus, hid,
      hstart, hend, hmessage, hip, hagent, readText_orElse hscreen, readText_orElse hmoves,
      or_false, if_false]
  · obtain ⟨hnoEnd, -, hnoMessage, hnoX, hnoY⟩ := hrow.open_of_read hread hinProgress
    have henters : ∀ other, report.Enters game other ↔ status = other := by
      intro other
      simp only [ProgressReport.Enters, hnamed, hinProgress, Option.some.injEq]
      exact ⟨And.left, fun h => ⟨h, h ▸ hfinal.symm⟩⟩
    have hgiven : report.errorMessage.elim none (fun text => if text = "" then none else some text)
        = readText report.errorMessage := by
      rw [← readText_orElse rfl]
      cases report.errorMessage <;> rfl
    have horNone : ∀ a : Option Int, (a <|> none) = a := fun a => by cases a <;> rfl
    simp only [readBack, ended, ProgressReport.applyCounters, ProgressReport.onto, henters, hnamed,
      hid, hstart, hip, hagent, hnoEnd, hnoMessage, hnoX, hnoY, hgiven, horNone,
      readText_orElse hscreen, readText_orElse hmoves, Option.getD_some]
    cases status <;> rfl

end GameSession

namespace Games

/-- What a report on a session that succeeds does to a store.  It replaces the row of the session,
    and what is read from the new row is the session after the report.  If that gives no field a
    new value, the store is seen as before. -/
inductive Updated (sessionId : String) (report : ProgressReport) (now : Instant) (s : Store) :
    GameSession → Store → Prop where
  | reported {old new : SessionRow} {game : GameSession} {sessions : Table SessionRow}
      (sessionId_eq : old.sessionId = sessionId) (read_old : old.read = .ok game)
      (replaced : s.database.sessions.Replaced old new sessions)
      (read_new : new.read = .ok (report.onto game now))
      (idle : report.Idle game →
        s.SeenAs { s with database := { s.database with sessions } }) :
      Updated sessionId report now s (report.onto game now)
        { s with database := { s.database with sessions } }

/-- A row whose empty texts are missing in place of the row itself is not seen. -/
theorem seenAs_of_replaced {s : Store} {old : SessionRow} {sessions : Table SessionRow}
    (h : s.database.sessions.Replaced old old.plain sessions) :
    s.SeenAs { s with database := { s.database with sessions } } := by
  obtain ⟨before, after, hrows, rfl⟩ := h
  refine Store.seenAs_of_plain_eq ?_
  simp only [Store.plain, Database.plain, Table.mapRows, hrows, List.map_append, List.map_cons,
    SessionRow.plain_plain]

/-! ## Updates -/

variable {s : Store}

/-- An update that succeeds has replaced the row of its session. -/
theorem update_updated (hs : s.database.sessions.Numbered)
    (hrows : ∀ r ∈ s.database.sessions.rows, r.Written) (sessionId : String)
    (report : ProgressReport) (now : Instant) :
    (update sessionId report now).Ends s fun r u =>
      ∀ game, r = .ok game → Updated sessionId report now s game u := by
  simp only [update]
  refine Op.Ends.reading (Op.keeps_ofCheck _) (fun _ _ => forall_ok_of_error) fun _ _ => ?_
  refine Op.Ends.reading (keeps_get sessionId) (fun _ _ => forall_ok_of_error) fun game hget => ?_
  obtain ⟨rfl, row, hfound, hread⟩ := get_ok hget
  cases happlied : report.applyTo now game with
  | error f => exact Op.ends_throw forall_ok_of_error
  | ok next =>
      have hmem := List.mem_of_find?_eq_some hfound
      have hrow := hrows row hmem
      have hrowId : row.sessionId = game.sessionId := by simpa using List.find?_some hfound
      have hnext : next.sessionId = game.sessionId := ProgressReport.sessionId_applyTo happlied
      rw [← hnext] at hfound
      refine Op.Ends.changing (fun _ _ => forall_ok_of_error) fun n db hdb => ?_
      obtain ⟨rfl, hsearch⟩ := updateSession_found hs hfound hdb
      have hreplaced := hs.replaced (fun r => next.rowAt r.id) (hs.find?_id hmem)
      refine Op.Reads.ends (keeps_get _) rfl fun updated hupdated => ?_
      obtain ⟨hid, new, hnew, hreadNew⟩ := get_ok hupdated
      rw [hid, ← hnext] at hnew
      obtain rfl : next.rowAt row.id = new := Option.some.inj (hsearch.symm.trans hnew)
      obtain rfl := GameSession.eq_onto hrow hread happlied hreadNew
      refine .reported hrowId hread hreplaced hreadNew fun hidle => ?_
      obtain rfl := hidle.applyTo happlied
      rw [GameSession.rowAt_eq_plain hrow hread] at hreplaced
      exact seenAs_of_replaced hreplaced

end Games

end RobotMaze
