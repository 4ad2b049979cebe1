import RobotMaze.Proofs.Grid.Cells
import RobotMaze.Proofs.Session.Writes
import RobotMaze.Proofs.Store.Put

/-! # The life of a game session

    From the moment at which it is opened a session is found under its id, and
    every later call leaves it as it is or takes it one step further.

    * `Games.Tracked` — a session as the store holds it, in a form that is read
      back as it was written;
    * `updateSession_found` — which row a session is written to, and where it is found;
    * `Tracked.append`, `Tracked.changed` — what adding and writing a row do to it;
    * `Writes.tracked` — what a single write of the service does to it;
    * `Tracked.after` — what a run does to it, by induction on the calls;
    * `Games.opened_session_laws` — the life of every session from its start on. -/

namespace RobotMaze

open Time (Instant)

/-- A session that is read from its row as it was written to it. -/
structure GameSession.Settled (s : GameSession) : Prop where
  startTime : s.startTime.Settled
  endTime : ∀ t ∈ s.endTime, t.Settled
  errorMessage : readText s.errorMessage = s.errorMessage
  ipAddress : readText s.ipAddress = s.ipAddress
  userAgent : readText s.userAgent = s.userAgent
  errorX : ∀ x ∈ s.errorX, IsInt32 x
  errorY : ∀ y ∈ s.errorY, IsInt32 y

theorem isSome_of_readText {text : Option String} (h : (readText text).isSome = true) :
    text.isSome = true := by
  cases text with
  | none => exact h
  | some s => rfl

namespace GameSession

variable {s next : GameSession} {report : ProgressReport} {now : Instant}

/-- The end of a session after a report is read back, and it is the old one where there was one. -/
theorem Settled.exists_endTime (hs : s.Settled) (hlaws : s.Lawful)
    (happlied : report.applyTo now s = .ok next) (hnow : now.HasFourDigitYear) :
    ∃ endTime, readTimeOpt (next.endTime.map Instant.stamp) = .ok endTime
      ∧ endTime.isSome = next.endTime.isSome
      ∧ (s.endTime.isSome = true → endTime = s.endTime) ∧ ∀ t ∈ endTime, t.Settled := by
  have hold : ∃ endTime, readTimeOpt (s.endTime.map Instant.stamp) = .ok endTime
      ∧ endTime.isSome = s.endTime.isSome
      ∧ (s.endTime.isSome = true → endTime = s.endTime) ∧ ∀ t ∈ endTime, t.Settled := by
    refine ⟨s.endTime, ?_, rfl, fun _ => rfl, hs.endTime⟩
    cases hend : s.endTime with
    | none => rfl
    | some t => exact readTimeOpt_some (hs.endTime t hend)
  rcases ProgressReport.applyTo_ok happlied with rfl | ⟨status, hstart, -, rfl⟩
  · exact hold
  · -- a session in progress has no end that the new one could replace
    have hnone := (hlaws.open_of_inProgress hstart).endTime
    simp only [GameSession.ended]
    by_cases hends : status.endsSession = true
    · simp only [if_pos hends]
      refine ⟨some now.stamped, readTimeOpt_some (readTime_stamp hnow), rfl, ?_, ?_⟩
      · rw [hnone]
        intro h
        cases h
      · rintro t ⟨⟩
        exact settled_stamped hnow
    · simp only [if_neg hends]
      exact hold

/-- The position of an error is the reported one or the one from before. -/
theorem Settled.position_applyTo (hs : s.Settled) (hposition : report.HasInt32Position)
    (happlied : report.applyTo now s = .ok next) :
    (∀ x ∈ next.errorX, IsInt32 x) ∧ ∀ y ∈ next.errorY, IsInt32 y := by
  rcases ProgressReport.applyTo_ok happlied with rfl | ⟨status, -, -, rfl⟩
  · exact ⟨hs.errorX, hs.errorY⟩
  · simp only [GameSession.ended]
    by_cases hfailed : status = .failed
    · simp only [if_pos hfailed]
      exact hposition
    · simp only [if_neg hfailed]
      exact ⟨hs.errorX, hs.errorY⟩

/-- After a report a session is read back as one that keeps the laws and is a later state of the
    session before. -/
theorem Settled.exists_read (hs : s.Settled) (hlaws : s.Lawful)
    (hposition : report.HasInt32Position) (hcheck : report.check = .ok ())
    (happlied : report.applyTo now s = .ok next) (hnow : now.HasFourDigitYear) :
    ∃ s', (next.rowAt s.id).read = .ok s'
      ∧ s'.Settled ∧ s'.Lawful ∧ s.Follows s' := by
  have hfollows := ProgressReport.follows_applyTo happlied hlaws
  have hlawful := ProgressReport.lawful_applyTo happlied hcheck hlaws
  obtain ⟨endTime, hend, hisSome, hfinal, hsettled⟩ :=
    hs.exists_endTime hlaws happlied hnow
  obtain ⟨hx, hy⟩ := hs.position_applyTo hposition happlied
  have hstart : readTime next.startTime.stamp = .ok s.startTime := by
    rw [hfollows.startTime_eq]
    exact hs.startTime
  refine ⟨{ next.readBack s.startTime endTime with id := s.id },
    GameSession.read_rowAt hstart hend hx hy s.id, ?_, ?_, ?_⟩
  · exact {
      startTime := hs.startTime
      endTime := hsettled
      errorMessage := readText_readText next.errorMessage
      ipAddress := readText_readText next.ipAddress
      userAgent := readText_readText next.userAgent
      errorX := hx
      errorY := hy }
  · exact {
      endTime_iff := by
        show endTime.isSome = true ↔ _
        rw [hisSome]
        exact hlawful.endTime_iff
      executionTime_only := hlawful.executionTime_only
      errorMessage_only := fun h => hlawful.errorMessage_only (isSome_of_readText h)
      errorX_only := hlawful.errorX_only
      errorY_only := hlawful.errorY_only
      movesCount_nonneg := hlawful.movesCount_nonneg
      cellsVisited_nonneg := hlawful.cellsVisited_nonneg
      attempts_nonneg := hlawful.attempts_nonneg }
  · exact {
      id_eq := rfl
      sessionId_eq := hfollows.sessionId_eq
      trackId_eq := hfollows.trackId_eq
      startTime_eq := rfl
      ipAddress_eq := by
        show readText next.ipAddress = s.ipAddress
        rw [hfollows.ipAddress_eq, hs.ipAddress]
      userAgent_eq := by
        show readText next.userAgent = s.userAgent
        rw [hfollows.userAgent_eq, hs.userAgent]
      device_eq := hfollows.device_eq
      totalCells_eq := hfollows.totalCells_eq
      status_final := hfollows.status_final
      endTime_final := hfinal
      error_final := by
        intro hfailed
        obtain ⟨hmessage, hxs, hys⟩ := hfollows.error_final hfailed
        refine ⟨?_, hxs, hys⟩
        show readText next.errorMessage = s.errorMessage
        rw [hmessage, hs.errorMessage] }

end GameSession

namespace Games

/-- A session as a table holds it. -/
structure Tracked (t : Table SessionRow) (s : GameSession) : Prop where
  held : ∃ row, t.rows.find? (fun r => r.sessionId == s.sessionId) = some row ∧ row.read = .ok s
  settled : s.Settled
  lawful : s.Lawful

/-- A row at the end does not hide the one that the search meets first. -/
theorem Tracked.append {t : Table SessionRow} {s : GameSession} (h : Tracked t s)
    (r : SessionRow) : Tracked (t.append r) s := by
  obtain ⟨⟨mine, hmine, hread⟩, hsettled, hlawful⟩ := h
  refine ⟨⟨mine, ?_, hread⟩, hsettled, hlawful⟩
  show (t.rows ++ [r]).find? _ = some mine
  rw [List.find?_append, hmine]
  rfl

/-- Where a row is written without a new id, the search for an id meets the same row as before,
    which is the written one or not. -/
theorem find?_sessionId_changed {t : Table SessionRow} (ht : t.Numbered) {row mine : SessionRow}
    (hmem : row ∈ t.rows) {next : GameSession} (hnext : next.sessionId = row.sessionId)
    {sessionId : String} (hmine : t.rows.find? (fun r => r.sessionId == sessionId) = some mine) :
    (t.changed row.id fun r => next.rowAt r.id).rows.find? (fun r => r.sessionId == sessionId)
      = some (if Row.id mine == row.id then next.rowAt mine.id else mine) := by
  have hfind : t.find? row.id = some row := ht.find?_id hmem
  refine (ht.find?_changed hfind (congrArg (· == sessionId) hnext)).trans ?_
  rw [hmine]
  rfl

/-- A session whose row is found is written to this row, where it is found from then on. -/
theorem updateSession_found {db db' : Database} (hdb : db.sessions.Numbered) {row : SessionRow}
    {next : GameSession} {n : Nat} (hfound : db.sessionById next.sessionId = some row)
    (h : db.updateSession next = .ok (n, db')) :
    db' = { db with sessions := db.sessions.changed row.id fun r => next.rowAt r.id }
      ∧ db'.sessionById next.sessionId = some (next.rowAt row.id) := by
  have hmem : row ∈ db.sessions.rows := List.mem_of_find?_eq_some hfound
  have hrowId : row.sessionId = next.sessionId := by simpa using List.find?_some hfound
  have hfind : db.sessions.find? row.id = some row := hdb.find?_id hmem
  have hsearch := find?_sessionId_changed hdb hmem hrowId.symm hfound
  rw [if_pos (by exact beq_self_eq_true row.id)] at hsearch
  rcases Database.updateSession_ok h with ⟨hnone, -⟩ | ⟨row', sessions, hrow', hmodify, rfl⟩
  · cases hnone.symm.trans hfound
  obtain rfl : row' = row := Option.some.inj (hrow'.symm.trans hfound)
  rcases Table.modify_ok hmodify with ⟨rfl, -⟩ | ⟨-, -, -, -, -, rfl⟩
  · -- every row satisfies the condition of this change
    cases (Table.modify_eq_zero hmodify).2 row' hfind
  · exact ⟨rfl, hsearch⟩

/-- Where a row is written, a session is held as before, or the row is its own, and it is held as
    what is read of that row from then on. -/
theorem Tracked.changed {t : Table SessionRow} {s : GameSession} (h : Tracked t s)
    (ht : t.Numbered) {row : SessionRow} (hmem : row ∈ t.rows) {next : GameSession}
    (hnext : next.sessionId = row.sessionId) :
    Tracked (t.changed row.id fun r => next.rowAt r.id) s
      ∨ row.read = .ok s ∧ ∀ s', (next.rowAt s.id).read = .ok s' → s'.sessionId = s.sessionId →
        s'.Settled → s'.Lawful → Tracked (t.changed row.id fun r => next.rowAt r.id) s' := by
  obtain ⟨⟨mine, hmine, hread⟩, hsettled, hlawful⟩ := h
  have hsearch := find?_sessionId_changed ht hmem hnext hmine
  by_cases hid : Row.id mine = row.id
  · -- the row that is written is ours
    have hsame : mine = row := ht.eq_of_id (List.mem_of_find?_eq_some hmine) hmem hid
    subst hsame
    refine Or.inr ⟨hread, fun s' hread' hsessionId hsettled' hlawful' => ?_⟩
    rw [congrArg GameSession.id (SessionRow.eq_of_read hread)] at hread'
    rw [if_pos (by simp [hid]), ← hsessionId] at hsearch
    exact ⟨⟨next.rowAt mine.id, hsearch, hread'⟩, hsettled', hlawful'⟩
  · -- it is not, so our row was not touched
    rw [if_neg (by simpa using hid)] at hsearch
    exact Or.inl ⟨⟨mine, hsearch, hread⟩, hsettled, hlawful⟩

/-- A write leaves a session as it is, or it takes it one step further. -/
theorem Writes.tracked {now : Instant} {t t' : Table SessionRow} (h : Writes now t t')
    (hnow : now.HasFourDigitYear) (ht : t.Numbered) {s : GameSession} (hs : Tracked t s) :
    ∃ s', Tracked t' s' ∧ s.Follows s' := by
  cases h with
  | nothing => exact ⟨s, hs, .refl s⟩
  | @opened r habove => exact ⟨s, hs.append r, .refl s⟩
  | @reported row session next report hfound hrow hposition hcheck happlied =>
      have hnext : next.sessionId = row.sessionId :=
        (ProgressReport.sessionId_applyTo happlied).trans
          (congrArg GameSession.sessionId (SessionRow.eq_of_read hrow))
      rcases hs.changed ht (List.mem_of_find?_eq_some hfound) hnext with hkept | ⟨hread, hheld⟩
      · exact ⟨s, hkept, .refl s⟩
      · -- the session that was reported is ours
        have heq : session = s := Except.ok.inj (hrow.symm.trans hread)
        subst heq
        obtain ⟨s', hread', hsettled', hlawful', hfollows⟩ :=
          hs.settled.exists_read hs.lawful hposition hcheck happlied hnow
        exact ⟨s', hheld s' hread' hfollows.sessionId_eq hsettled' hlawful', hfollows⟩

/-! ## Runs -/

theorem Tracked.get_answer {s : Store} {game : GameSession}
    (h : Tracked s.database.sessions game) : (get game.sessionId).answer s = .ok game := by
  obtain ⟨row, hfound, hread⟩ := h.held
  exact get_of_find hfound hread

/-- What leaves the table of game sessions alone writes nothing to it. -/
theorem writesTo_of_keeps {α : Type} {op : Op α} {now : Instant} (s : Store)
    (hop : op.Keeps fun u => u.database.sessions) : WritesTo now s (op.run s).2 :=
  ends_of_sessions (P := Writes now s.database.sessions) Writes.nothing hop

/-- Every call makes at most one write to the table of game sessions. -/
theorem next_writes (s : Store) (e : Event) : WritesTo e.now s (s.next e) := by
  obtain ⟨now, call⟩ := e
  cases call with
  | games c =>
      cases c with
      | start trackId sessionId client => exact start_writes trackId sessionId client
      | update sessionId report position => exact update_writes sessionId position
      | recordQuick trackId completed seconds moves client =>
          exact recordQuick_writes trackId completed seconds moves client
      | _ => exact writesTo_of_keeps s (Call.keeps_of_reading rfl)
  | _ => exact writesTo_of_keeps s (Call.keeps_sessions fun _ h => nomatch h)

theorem numbered_after (trail : Trail) (run : List Event) :
    ((Store.empty trail).after run).database.sessions.Numbered :=
  Store.after_invariant (P := fun s => s.database.sessions.Numbered)
    (fun e _ s hs => (next_writes s e).numbered hs) Table.numbered_empty

/-- A run leaves a session as it is, or it takes it further. -/
theorem Tracked.after {s : Store} (hs : s.database.sessions.Numbered) {game : GameSession}
    (h : Tracked s.database.sessions game) {run : List Event}
    (hrun : ∀ e ∈ run, e.now.HasFourDigitYear) :
    (s.after run).database.sessions.Numbered
      ∧ ∃ later, Tracked (s.after run).database.sessions later ∧ game.Follows later := by
  -- by induction on the calls, since each begins in the store that the last one left
  induction run generalizing s game with
  | nil => exact ⟨hs, game, h, .refl game⟩
  | cons e rest ih =>
      have hwrites := next_writes s e
      obtain ⟨later, hlater, hfollows⟩ := hwrites.tracked (hrun e List.mem_cons_self) hs h
      obtain ⟨hnumbered, last, hlast, hrest⟩ := ih (hwrites.numbered hs) hlater
        fun f hf => hrun f (List.mem_cons_of_mem e hf)
      exact ⟨hnumbered, last, hlast, hfollows.trans hrest⟩

/-! ## The start -/

theorem cellsOf_ok {s : Store} {t : Track} {cells : Nat} (h : (cellsOf t).answer s = .ok cells) :
    ∃ g, t.grid = .ok g ∧ cells = g.pathCount := by
  simp only [cellsOf] at h
  obtain ⟨g, hgrid, h⟩ := Op.Reads.ok_of_bind (Op.keeps_ofCheck _) h
  injection h with h
  exact ⟨g, Op.ofCheck_ok hgrid, h.symm⟩

/-- A session that was stored is the last row, and no other row has its id. -/
theorem store_ends (game : GameSession) (s : Store) :
    (store game).Ends s fun r u => ∀ stored, r = .ok stored → ∃ id,
      u.database.sessions = s.database.sessions.append (game.rowAt id)
        ∧ (game.rowAt id).read = .ok stored
        ∧ ∀ row ∈ s.database.sessions.rows, row.sessionId ≠ game.sessionId := by
  simp only [store]
  refine Op.Ends.changing (fun _ _ => forall_ok_of_error) fun row db hdb => ?_
  obtain ⟨sessions, hinsert, rfl⟩ := Database.insertSession_ok hdb
  obtain ⟨id, -, rfl, hacc, rfl⟩ := Table.insert_ok hinsert
  intro stored hstored
  rw [Op.answer_ofRead] at hstored
  refine ⟨id, ?_, hstored, ?_⟩
  · have hkeeps : (Op.ofRead (game.rowAt id).read).Keeps fun u => u.database.sessions :=
      Op.keeps_ofRead _
    exact hkeeps.run _
  · intro row hrow hsame
    have hfresh := (Bool.and_eq_true_iff.mp hacc).1
    rw [Bool.not_eq_true', List.any_eq_false] at hfresh
    exact hfresh row hrow (beq_iff_eq.mpr hsame)

/-- A session at its start, as it is read. -/
theorem exists_read_opened (sessionId : String) (trackId : Int) (cells : Nat) (client : Client)
    {now : Instant} (hnow : now.HasFourDigitYear) (id : Int) :
    ∃ game, ((opened sessionId trackId cells client now).rowAt id).read = .ok game
      ∧ game.Settled ∧ game.Lawful ∧ game.status = .inProgress ∧ game.sessionId = sessionId
      ∧ game.trackId = trackId ∧ game.totalCells = cells := by
  have hstart : readTime (opened sessionId trackId cells client now).startTime.stamp
      = .ok now.stamped := readTime_stamp hnow
  have hnone : ∀ x ∈ (none : Option Int), IsInt32 x := fun _ h => by cases h
  have hread := GameSession.read_rowAt hstart rfl hnone hnone id
  refine ⟨_, hread, ?_, ?_, rfl, rfl, rfl, rfl⟩
  · exact {
      startTime := settled_stamped hnow
      endTime := fun _ h => by cases h
      errorMessage := rfl
      ipAddress := readText_readText _
      userAgent := readText_readText _
      errorX := hnone
      errorY := hnone }
  · constructor <;> simp [GameSession.readBack, opened, readText]

/-- A session that was opened is held by the store from then on. -/
theorem start_ok {s : Store} {trackId : Int} {sessionId : String} {client : Client}
    {now : Instant} (hnow : now.HasFourDigitYear) {game : GameSession}
    (h : (start trackId sessionId client now).answer s = .ok game) :
    Tracked ((start trackId sessionId client now).run s).2.database.sessions game
      ∧ game.status = .inProgress ∧ game.sessionId = sessionId ∧ game.trackId = trackId
      ∧ ∃ t g, (Tracks.get trackId).answer s = .ok t ∧ t.grid = .ok g
        ∧ game.totalCells = g.pathCount := by
  suffices hends : (start trackId sessionId client now).Ends s fun r u =>
      ∀ game, r = .ok game → Tracked u.database.sessions game
        ∧ game.status = .inProgress ∧ game.sessionId = sessionId ∧ game.trackId = trackId
        ∧ ∃ t g, (Tracks.get trackId).answer s = .ok t ∧ t.grid = .ok g
          ∧ game.totalCells = g.pathCount from hends game h
  simp only [start]
  refine Op.Ends.reading (Tracks.keeps_get trackId) (fun _ _ => forall_ok_of_error) fun t ht => ?_
  refine Op.Ends.reading (keeps_cellsOf t) (fun _ _ => forall_ok_of_error) fun cells hcells => ?_
  obtain ⟨g, hgrid, rfl⟩ := cellsOf_ok hcells
  refine (store_ends (opened sessionId trackId g.pathCount client now) s).imp ?_
  intro r u hstored game hgame
  obtain ⟨id, hsessions, hread, hfresh⟩ := hstored game hgame
  obtain ⟨game', hread', hsettled, hlawful, hstatus, hid, htrack, hcells⟩ :=
    exists_read_opened sessionId trackId g.pathCount client hnow id
  have heq : game' = game := Except.ok.inj (hread'.symm.trans hread)
  subst heq
  refine ⟨⟨⟨_, ?_, hread⟩, hsettled, hlawful⟩, hstatus, hid, htrack, t, g, ht, hgrid, hcells⟩
  -- the new row is the last one, and the rows before it have other ids
  have hnone : s.database.sessions.rows.find? (fun r => r.sessionId == game'.sessionId) = none := by
    refine List.find?_eq_none.mpr fun row hrow hsame => hfresh row hrow ?_
    rw [hid] at hsame
    exact beq_iff_eq.mp hsame
  rw [hsessions]
  show (s.database.sessions.rows ++ [_]).find? _ = _
  rw [List.find?_append, hnone, hid]
  simp [opened, GameSession.rowAt, SessionRow.ofSession]

/-- From its start on every session keeps the laws, whatever is called in between: at any two
    moments, one after the other, it is found under its id, its fields agree with its state, and
    the second is a later state of the first. -/
theorem opened_session_laws (trail : Trail) (before : List Event) (trackId : Int)
    (sessionId : String) (client : Client) (now : Instant) (game : GameSession)
    (hnow : now.HasFourDigitYear)
    (hstart : (start trackId sessionId client now).answer ((Store.empty trail).after before)
      = .ok game)
    (early late : List Event) (hclock : ∀ e ∈ early ++ late, e.now.HasFourDigitYear) :
    let s := (Store.empty trail).after before
    let started := ((start trackId sessionId client now).run s).2
    (game.status = .inProgress ∧ game.sessionId = sessionId ∧ game.trackId = trackId
      ∧ ∃ t g, (Tracks.get trackId).answer s = .ok t ∧ t.grid = .ok g
        ∧ game.totalCells = g.pathCount)
      ∧ ∃ first second, (get sessionId).answer (started.after early) = .ok first
        ∧ (get sessionId).answer (started.after (early ++ late)) = .ok second
        ∧ game.Follows first ∧ first.Follows second
        ∧ game.Lawful ∧ first.Lawful ∧ second.Lawful := by
  intro s started
  obtain ⟨htracked, hstatus, hid, htrack, hcells⟩ := start_ok hnow hstart
  have hwrites : WritesTo now s started := start_writes trackId sessionId client
  have hnumbered : started.database.sessions.Numbered :=
    hwrites.numbered (numbered_after trail before)
  obtain ⟨hnumberedEarly, first, hfirst, hgameFirst⟩ := htracked.after hnumbered
    fun e he => hclock e (List.mem_append_left late he)
  obtain ⟨-, second, hsecond, hfirstSecond⟩ := hfirst.after hnumberedEarly
    fun e he => hclock e (List.mem_append_right early he)
  refine ⟨⟨hstatus, hid, htrack, hcells⟩, first, second, ?_, ?_, hgameFirst, hfirstSecond,
    htracked.lawful, hfirst.lawful, hsecond.lawful⟩
  · rw [← hid, ← hgameFirst.sessionId_eq]
    exact hfirst.get_answer
  · rw [← hid, ← hgameFirst.sessionId_eq, ← hfirstSecond.sessionId_eq, Store.after_append]
    exact hsecond.get_answer

/-- A store with one track. -/
def oneTrack : List Event :=
  [⟨⟨1772366400, 0⟩,
    .tracks (.create ⟨"Corridor", Grid.corridor.render, 0, 0, .east, none, none⟩ {})⟩]

/-- Two cells are visited. -/
def underway : List Event :=
  [⟨⟨1772366405, 7⟩, .games (.update "visit" { movesCount := some 1, cellsVisited := some 2 }
    ⟨fun _ h => (nomatch h), fun _ h => (nomatch h)⟩)⟩]

/-- The game is lost; that it was won after all is not accepted. -/
def lost : List Event :=
  [⟨⟨1772366410, 0⟩, .games (.update "visit"
      { status := some .failed, errorMessage := some "blocked", errorX := some 5, errorY := some 0 }
      ⟨by decide, by decide⟩)⟩,
    ⟨⟨1772366420, 0⟩, .games (.update "visit" { status := some .success }
      ⟨fun _ h => (nomatch h), fun _ h => (nomatch h)⟩)⟩]

/-- A visit at its start. -/
def visit : GameSession := { opened "visit" 1 5 {} ⟨1772366400, 0⟩ with id := 1 }

/-- The visit before, between and after these reports. -/
theorem opened_session_laws_lost :
    let s := (Store.empty .disabled).after oneTrack
    let started := ((start 1 "visit" {} ⟨1772366400, 0⟩).run s).2
    (⟨1772366400, 0⟩ : Instant).HasFourDigitYear
      ∧ (start 1 "visit" {} ⟨1772366400, 0⟩).answer s = .ok visit
      ∧ (∀ e ∈ underway ++ lost, e.now.HasFourDigitYear)
      ∧ ∃ first second, (get "visit").answer (started.after underway) = .ok first
        ∧ (get "visit").answer (started.after (underway ++ lost)) = .ok second
        ∧ visit.Follows first ∧ first.Follows second
        ∧ visit.Lawful ∧ first.Lawful ∧ second.Lawful :=
  ⟨by decide, by decide +kernel, by decide,
    (opened_session_laws .disabled oneTrack 1 "visit" {} ⟨1772366400, 0⟩ visit (by decide)
      (by decide +kernel) underway lost (by decide)).2⟩

end Games

end RobotMaze
