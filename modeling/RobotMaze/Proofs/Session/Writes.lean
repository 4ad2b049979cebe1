import RobotMaze.Proofs.Service.Frames
import RobotMaze.Proofs.Session.Laws

/-! # Writes to the table of game sessions

    An operation on games adds a session at the end of the table, or it puts a
    report into one that is there, or it writes nothing.

    * `start_opens`, `recordQuick_opens`, `update_reports` — the write of each
      operation, whatever its answer;
    * `Writes` — that of any of them;
    * `Writes.numbered`, `Writes.written` — the table stays one with rising ids,
      and all its rows are those of sessions. -/

namespace RobotMaze

open Time (Instant)

/-- The row of a session, under any number.  In progress it has neither an end nor an error. -/
def SessionRow.Written (r : SessionRow) : Prop :=
  ∃ (game : GameSession) (id : Int), r = game.rowAt id ∧ (game.status = .inProgress → game.Open)

/-- What is read from the row of a session has neither an end nor an error in progress. -/
theorem SessionRow.Written.open_of_read {r : SessionRow} (hr : r.Written) {game : GameSession}
    (hread : r.read = .ok game) (hstart : game.status = .inProgress) : game.Open := by
  obtain ⟨source, id, rfl, hopen⟩ := hr
  obtain ⟨startTime, endTime, device, -, hendTime, -, rfl⟩ := fields_of_read hread
  obtain ⟨hend, htime, hmessage, hx, hy⟩ := hopen hstart
  have hnone : readTimeOpt (source.rowAt id).endTime = .ok none := by
    show readTimeOpt (source.endTime.map Instant.stamp) = _
    rw [hend]
    rfl
  refine ⟨Except.ok.inj (hendTime.symm.trans hnone), htime, ?_, hx, hy⟩
  show readText source.errorMessage = none
  rw [hmessage]
  rfl

/-- After a report a session in progress still has neither an end nor an error. -/
theorem GameSession.Open.applyTo {s next : GameSession} {report : ProgressReport} {now : Instant}
    (hopen : s.status = .inProgress → s.Open) (happlied : report.applyTo now s = .ok next)
    (hstart : next.status = .inProgress) : next.Open := by
  rcases ProgressReport.applyTo_ok happlied with rfl | ⟨status, -, hfinal, rfl⟩
  · obtain ⟨hend, htime, hmessage, hx, hy⟩ := hopen hstart
    exact ⟨hend, htime, hmessage, hx, hy⟩
  · exact absurd hstart hfinal

namespace Games

/-- What an operation does to the table of game sessions. -/
inductive Writes (now : Instant) (t : Table SessionRow) : Table SessionRow → Prop where
  | nothing : Writes now t t
  | opened {r : SessionRow} (above : t.lastId < r.id) (written : r.Written) :
      Writes now t (t.append r)
  | reported {row : SessionRow} {session next : GameSession} {report : ProgressReport}
      (found : t.rows.find? (fun r => r.sessionId == session.sessionId) = some row)
      (read : row.read = .ok session) (position : report.HasInt32Position)
      (checked : report.check = .ok ()) (applied : report.applyTo now session = .ok next) :
      Writes now t (t.changed row.id fun r => next.rowAt r.id)

theorem Writes.numbered {now : Instant} {t t' : Table SessionRow} (h : Writes now t t')
    (ht : t.Numbered) : t'.Numbered := by
  cases h with
  | nothing => exact ht
  | opened habove => exact ht.append habove
  | reported hfound hread hposition hchecked happlied => exact ht.changed fun _ => rfl

theorem Writes.written {now : Instant} {t t' : Table SessionRow} (h : Writes now t t')
    (ht : ∀ r ∈ t.rows, r.Written) : ∀ r ∈ t'.rows, r.Written := by
  cases h with
  | nothing => exact ht
  | opened habove hwritten =>
      intro r hr
      rcases List.mem_append.mp hr with hold | hnew
      · exact ht r hold
      · rw [List.mem_singleton.mp hnew]
        exact hwritten
  | reported hfound hread hposition hchecked happlied =>
      have hopen := (ht _ (List.mem_of_find?_eq_some hfound)).open_of_read hread
      intro r hr
      obtain ⟨old, hold, rfl⟩ := List.mem_map.mp hr
      split
      · exact ⟨_, _, rfl, GameSession.Open.applyTo hopen happlied⟩
      · exact ht old hold

/-- What opening a session does to the table. -/
inductive Opens (t : Table SessionRow) : Table SessionRow → Prop where
  | nothing : Opens t t
  | opened {r : SessionRow} (above : t.lastId < r.id) (written : r.Written) : Opens t (t.append r)

/-- What a report on the session of an id does to the table. -/
inductive Reports (sessionId : String) (report : ProgressReport) (now : Instant)
    (t : Table SessionRow) : Table SessionRow → Prop where
  | nothing : Reports sessionId report now t t
  | reported {row : SessionRow} {session next : GameSession}
      (found : t.rows.find? (fun r => r.sessionId == sessionId) = some row)
      (read : row.read = .ok session) (checked : report.check = .ok ())
      (applied : report.applyTo now session = .ok next) :
      Reports sessionId report now t (t.changed row.id fun r => next.rowAt r.id)

/-- What an operation does to the game sessions of a store. -/
abbrev WritesTo (now : Instant) (s u : Store) : Prop :=
  Writes now s.database.sessions u.database.sessions

section Operations

variable {now : Instant} {s : Store}

/-- After its write an operation does nothing to the table of game sessions. -/
theorem ends_of_sessions {α : Type} {op : Op α} {P : Table SessionRow → Prop} {t : Store}
    (h : P t.database.sessions) (hop : op.Keeps fun u => u.database.sessions) :
    op.Ends t fun _ u => P u.database.sessions :=
  Op.Ends.keeping hop fun _ u hsessions => by
    show P u.database.sessions
    rw [hsessions]
    exact h

/-- A session that is stored is opened as a new row. -/
theorem store_opens {game : GameSession} (hopen : game.status = .inProgress → game.Open) :
    (store game).Ends s fun _ u => Opens s.database.sessions u.database.sessions := by
  simp only [store]
  refine Op.Ends.changing (fun _ _ => Opens.nothing) fun row db hdb => ?_
  obtain ⟨sessions, hinsert, rfl⟩ := Database.insertSession_ok hdb
  obtain ⟨id, hnext, rfl, hacc, rfl⟩ := Table.insert_ok hinsert
  exact ends_of_sessions (t := { s with database := { s.database with
      sessions := s.database.sessions.append (game.rowAt id) } })
    (Opens.opened (Table.lastId_lt_of_nextId? hnext) ⟨game, id, rfl, hopen⟩) (Op.keeps_ofRead _)

/-- Starting a game opens its session, or does nothing. -/
theorem start_opens (trackId : Int) (sessionId : String) (client : Client) :
    (start trackId sessionId client now).Ends s fun _ u =>
      Opens s.database.sessions u.database.sessions := by
  simp only [start]
  refine Op.Ends.reading (Tracks.keeps_get trackId) (fun _ _ => Opens.nothing) fun t _ => ?_
  refine Op.Ends.reading (keeps_cellsOf t) (fun _ _ => Opens.nothing) fun cells _ => ?_
  exact store_opens fun _ => ⟨rfl, rfl, rfl, rfl, rfl⟩

/-- A game reported at its end opens its session, or does nothing. -/
theorem recordQuick_opens (trackId : Int) (completed : Bool) (seconds moves : Int)
    (client : Client) :
    (recordQuick trackId completed seconds moves client now).Ends s fun _ u =>
      Opens s.database.sessions u.database.sessions := by
  simp only [recordQuick]
  by_cases hlong : maxQuickSeconds < max seconds 0
  · simp only [if_pos hlong]
    exact Op.ends_throw Opens.nothing
  · simp only [if_neg hlong]
    refine Op.Ends.reading (Tracks.keeps_get trackId) (fun _ _ => Opens.nothing) fun t _ => ?_
    refine Op.Ends.reading (keeps_cellsOf t) (fun _ _ => Opens.nothing) fun cells _ => ?_
    cases now.addSeconds? (-max seconds 0) with
    | none => exact Op.ends_throw Opens.nothing
    | some startTime =>
        refine Op.Ends.reading (Op.keeps_query _) (fun _ _ => Opens.nothing) fun id _ => ?_
        refine store_opens fun hstart => ?_
        cases completed <;> cases hstart

/-- A session that is found and can be read is what the store answers. -/
theorem get_of_find {sessionId : String} {row : SessionRow} {game : GameSession}
    (hfind : s.database.sessionById sessionId = some row) (hread : row.read = .ok game) :
    (get sessionId).answer s = .ok game := by
  simp only [get]
  rw [Op.Reads.answer_bind (Op.keeps_query _), Op.answer_query]
  simp only [hfind]
  rw [Op.answer_ofRead, hread]

/-- A session has the id under which its row was found. -/
theorem sessionId_of_find {t : Table SessionRow} {sessionId : String} {row : SessionRow}
    {game : GameSession} (hfind : t.rows.find? (fun r => r.sessionId == sessionId) = some row)
    (hread : row.read = .ok game) : game.sessionId = sessionId := by
  have hrow := List.find?_some hfind
  rw [SessionRow.eq_of_read hread]
  simpa using hrow

/-- A session that was read is the one of the row that is found under its id. -/
theorem get_ok {sessionId : String} {game : GameSession}
    (h : (get sessionId).answer s = .ok game) :
    game.sessionId = sessionId ∧ ∃ row,
      s.database.sessions.rows.find? (fun r => r.sessionId == game.sessionId) = some row
        ∧ row.read = .ok game := by
  simp only [get] at h
  obtain ⟨found, hfound, h⟩ := Op.Reads.ok_of_bind (Op.keeps_query _) h
  injection hfound with hfound
  cases found with
  | none => cases h
  | some row =>
      rw [Op.answer_ofRead] at h
      have hid := sessionId_of_find hfound h
      exact ⟨hid, row, hid ▸ hfound, h⟩

/-- A report changes its own session, or nothing. -/
theorem update_reports (sessionId : String) (report : ProgressReport) :
    (update sessionId report now).Ends s fun _ u =>
      Reports sessionId report now s.database.sessions u.database.sessions := by
  simp only [update]
  refine Op.Ends.reading (Op.keeps_ofCheck _) (fun _ _ => Reports.nothing) fun _ hcheck => ?_
  refine Op.Ends.reading (keeps_get sessionId) (fun _ _ => Reports.nothing) fun game hget => ?_
  obtain ⟨rfl, row, hfound, hread⟩ := get_ok hget
  cases happly : report.applyTo now game with
  | error f => exact Op.ends_throw Reports.nothing
  | ok next =>
      refine Op.Ends.changing (fun _ _ => Reports.nothing) fun n db hdb => ?_
      have hwrites : Reports game.sessionId report now s.database.sessions db.sessions := by
        rcases Database.updateSession_ok hdb with
          ⟨hnone, rfl⟩ | ⟨row', sessions, hrow', hmodify, rfl⟩
        · exact Reports.nothing
        · -- the row that is written is the one that was read
          rw [ProgressReport.sessionId_applyTo happly] at hrow'
          have heq : row' = row := Option.some.inj (hrow'.symm.trans hfound)
          subst heq
          rcases Table.modify_ok hmodify with ⟨-, rfl⟩ | ⟨r, -, -, -, -, rfl⟩
          · exact Reports.nothing
          · exact Reports.reported hfound hread (Op.ofCheck_ok hcheck) happly
      exact ends_of_sessions (t := { s with database := db }) hwrites (keeps_get game.sessionId)

/-! ## Any operation -/

/-- Opening a session is a write. -/
theorem Opens.writes {t t' : Table SessionRow} (h : Opens t t') : Writes now t t' := by
  cases h with
  | nothing => exact .nothing
  | opened habove hwritten => exact .opened habove hwritten

/-- A report with a position that fits is a write. -/
theorem Reports.writes {sessionId : String} {report : ProgressReport} {t t' : Table SessionRow}
    (h : Reports sessionId report now t t') (hposition : report.HasInt32Position) :
    Writes now t t' := by
  cases h with
  | nothing => exact .nothing
  | reported hfound hread hchecked happlied =>
      have hid := sessionId_of_find hfound hread
      exact .reported (hid ▸ hfound) hread hposition hchecked happlied

/-- Starting a game writes as sessions are written. -/
theorem start_writes (trackId : Int) (sessionId : String) (client : Client) :
    (start trackId sessionId client now).Ends s fun _ u => WritesTo now s u :=
  (start_opens trackId sessionId client).imp fun _ _ h => h.writes

theorem recordQuick_writes (trackId : Int) (completed : Bool) (seconds moves : Int)
    (client : Client) :
    (recordQuick trackId completed seconds moves client now).Ends s fun _ u =>
      WritesTo now s u :=
  (recordQuick_opens trackId completed seconds moves client).imp fun _ _ h => h.writes

/-- Reporting progress writes as sessions are written. -/
theorem update_writes (sessionId : String) {report : ProgressReport}
    (hposition : report.HasInt32Position) :
    (update sessionId report now).Ends s fun _ u => WritesTo now s u :=
  (update_reports sessionId report).imp fun _ _ h => h.writes hposition

end Operations

end Games

end RobotMaze
