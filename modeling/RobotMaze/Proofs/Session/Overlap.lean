import RobotMaze.Proofs.Service.Traffic
import RobotMaze.Proofs.Session.Life

/-! # Reports that overlap

    A report is checked against a copy of the session, which is then written back
    with all its fields.  So what a report writes is out of date if another one
    was taken in meanwhile: a report that was begun in time undoes the end of a
    session (`shared_finished_race`).  But no report can go back behind the
    moment at which the calls came in:

    * `laterStates` — the store holds a later state of a session;
    * `follows_of_read` — and so is every copy that a report is put into;
    * `updateSession_upholds`, `update_upholds` — so nothing else is written;
    * `shared_later`, `shared_finished` — the session stays lawful, and one that is
      finished when the calls come in stays finished as it is, in whatever order
      they take their steps. -/

namespace RobotMaze.Games

open Time (Instant)

variable {game : GameSession}

/-- The store holds a later state of a session. -/
def laterStates (game : GameSession) : Pact Store :=
  .always fun s => s.database.sessions.Numbered
    ∧ ∃ later, Tracked s.database.sessions later ∧ game.Follows later

theorem laterStates_sees : (laterStates game).Sees fun s => s.database.sessions :=
  Pact.always_sees (Q := fun sessions : Table SessionRow =>
    sessions.Numbered ∧ ∃ later, Tracked sessions later ∧ game.Follows later)

/-- What is read of the session while the pact is kept is a later state of it. -/
theorem follows_of_read {s : Store} {row : SessionRow} {copy : GameSession}
    (hholds : (laterStates game).holds s)
    (hrow : s.database.sessionById game.sessionId = some row) (hread : row.read = .ok copy) :
    copy.Settled ∧ copy.Lawful ∧ game.Follows copy := by
  obtain ⟨-, later, ⟨⟨mine, hmine, hmineRead⟩, hsettled, hlawful⟩, hfollows⟩ := hholds
  rw [hfollows.sessionId_eq] at hmine
  have hsame : mine = row := Option.some.inj (hmine.symm.trans hrow)
  subst hsame
  have heq : copy = later := Except.ok.inj (hread.symm.trans hmineRead)
  subst heq
  exact ⟨hsettled, hlawful, hfollows⟩

/-! ## Changes -/

/-- A row at the end takes no session away. -/
theorem insertSession_upholds (new : GameSession) :
    (Op.change (Database.insertSession new)).Upholds (laterStates game) := by
  refine fun s => Op.honours_change fun t _ hholds row db hchange => ⟨?_, trivial⟩
  obtain ⟨hnumbered, later, hlater, hfollows⟩ := hholds
  obtain ⟨sessions, hinsert, rfl⟩ := Database.insertSession_ok hchange
  have hsessions := hnumbered.insert (fun _ => rfl) hinsert
  obtain ⟨id, -, -, -, rfl⟩ := Table.insert_ok hinsert
  exact ⟨hsessions, later, hlater.append _, hfollows⟩

/-- A session that is written leaves a later state behind if it is one, or if it is a session of
    another id. -/
theorem updateSession_upholds {next : GameSession}
    (hnext : next.sessionId = game.sessionId → ∃ later, (next.rowAt game.id).read = .ok later
      ∧ later.Settled ∧ later.Lawful ∧ game.Follows later) :
    (Op.change (Database.updateSession next)).Upholds (laterStates game) := by
  refine fun s => Op.honours_change fun t _ hholds n db hchange => ⟨?_, trivial⟩
  obtain ⟨hnumbered, later, hlater, hfollows⟩ := hholds
  rcases Database.updateSession_ok hchange with ⟨-, rfl⟩ | ⟨row, sessions, hrow, hmodify, rfl⟩
  · exact ⟨hnumbered, later, hlater, hfollows⟩
  have hids : ∀ r : SessionRow, Row.id (next.rowAt r.id) = Row.id r := fun _ => rfl
  have hsessions := hnumbered.modify hids hmodify
  rcases Table.modify_ok hmodify with ⟨-, rfl⟩ | ⟨-, -, -, -, -, rfl⟩
  · exact ⟨hnumbered, later, hlater, hfollows⟩
  refine ⟨hsessions, ?_⟩
  have hrowId : row.sessionId = next.sessionId := by
    have hfound := List.find?_some hrow
    simpa using hfound
  rcases hlater.changed hnumbered (List.mem_of_find?_eq_some hrow) hrowId.symm with
    hkept | ⟨hread, hheld⟩
  · exact ⟨later, hkept, hfollows⟩
  · -- the session that is written is ours
    have hours : next.sessionId = game.sessionId := by
      rw [← hrowId, ← hfollows.sessionId_eq, SessionRow.eq_of_read hread]
    obtain ⟨written, hwritten, hsettled, hlawful, hwrittenFollows⟩ := hnext hours
    rw [← hfollows.id_eq] at hwritten
    have hid : written.sessionId = later.sessionId := by
      rw [hwrittenFollows.sessionId_eq, hfollows.sessionId_eq]
    exact ⟨written, hheld written hwritten hid hsettled hlawful, hwrittenFollows⟩

/-! ## Operations -/

/-- What an operation reads of a session is what the store says at that moment. -/
theorem get_honours {p : Pact Store} (sessionId : String) (s : Store) :
    (get sessionId).Honours p s fun copy t => p.holds t ∧ ∃ row,
      t.database.sessionById sessionId = some row ∧ row.read = .ok copy := by
  simp only [get]
  refine (Op.honours_query _ s).bind ?_
  rintro found t ⟨-, hholds, hfound⟩
  cases found with
  | none => exact Op.honours_throw _
  | some row =>
      refine (Op.honours_ofRead _ t).imp ?_
      rintro copy u ⟨hread, rfl⟩
      exact ⟨hholds, row, hfound.symm, hread⟩

/-- A report is put into a copy of the session.  However old the copy is, what comes of it is a later
    state of what the session was at the beginning. -/
theorem update_upholds (sessionId : String) {report : ProgressReport}
    (hposition : report.HasInt32Position) {now : Instant} (hnow : now.HasFourDigitYear) :
    (update sessionId report now).Upholds (laterStates game) := by
  intro s
  simp only [update]
  refine (Op.honours_ofCheck _ s).bind ?_
  rintro ⟨⟩ t ⟨hcheck, rfl⟩
  refine (get_honours sessionId t).bind ?_
  rintro copy u ⟨hholds, row, hrow, hread⟩
  cases happly : report.applyTo now copy with
  | error f => exact Op.honours_throw _
  | ok next =>
      have hwritten : next.sessionId = game.sessionId → ∃ later,
          (next.rowAt game.id).read = .ok later
            ∧ later.Settled ∧ later.Lawful ∧ game.Follows later := by
        intro hours
        have hcopy : copy.sessionId = sessionId := by
          have hfound := List.find?_some hrow
          rw [SessionRow.eq_of_read hread]
          simpa using hfound
        have hid : sessionId = game.sessionId := by
          rw [← hcopy, ← ProgressReport.sessionId_applyTo happly, hours]
        subst hid
        obtain ⟨hsettled, hlawful, hfollows⟩ := follows_of_read hholds hrow hread
        obtain ⟨later, hlater, hsettled', hlawful', hnext⟩ :=
          hsettled.exists_read hlawful hposition hcheck happly hnow
        rw [hfollows.id_eq] at hlater
        exact ⟨later, hlater, hsettled', hlawful', hfollows.trans hnext⟩
      refine (updateSession_upholds hwritten u).bind fun _ v _ => ?_
      exact (keeps_get sessionId).upholds laterStates_sees v

theorem store_upholds (new : GameSession) : (store new).Upholds (laterStates game) :=
  Op.upholds_bind (insertSession_upholds new) fun _ => Op.Reads.upholds (Op.keeps_ofRead _)

/-- Every call on games leaves a later state of the session behind. -/
theorem Call.upholds (c : Call) {now : Instant} (hnow : now.HasFourDigitYear) :
    (c.op now).2.Upholds (laterStates game) := by
  have hstore : ∀ new, (store new).Upholds (laterStates game) := store_upholds
  cases c with
  | start trackId sessionId client =>
      show (Games.start trackId sessionId client now).Upholds _
      simp only [Games.start]
      grind
  | update sessionId report position => exact update_upholds sessionId position hnow
  | recordQuick trackId completed seconds moves client =>
      show (Games.recordQuick trackId completed seconds moves client now).Upholds _
      simp only [Games.recordQuick]
      grind
  | _ => exact (Call.keeps_of_reading rfl).upholds laterStates_sees

/-- So does every call; the other services leave sessions alone. -/
theorem upholds_laterStates {e : Event} (hnow : e.now.HasFourDigitYear) :
    (e.call.op e.now).2.Upholds (laterStates game) := by
  obtain ⟨now, c⟩ := e
  cases c with
  | games c => exact c.upholds hnow
  | _ => exact (Call.keeps_sessions fun _ h => by cases h).upholds laterStates_sees

/-! ## Schedules -/

/-- At every moment a session is found as a lawful later state of what it was when the calls came in,
    whatever calls are under way and in whatever order they take their steps. -/
theorem shared_later {s : Store} (hnumbered : s.database.sessions.Numbered)
    (hgame : Tracked s.database.sessions game) {schedule : List Turn}
    (hclock : ∀ e, .arrive e ∈ schedule → e.now.HasFourDigitYear) :
    ∃ later, (get game.sessionId).answer (s.shared schedule) = .ok later
      ∧ game.Follows later ∧ later.Lawful := by
  have hholds : (laterStates game).holds s := ⟨hnumbered, game, hgame, .refl game⟩
  obtain ⟨⟨-, later, hlater, hfollows⟩, -⟩ :=
    Store.shared_upholds hholds fun e he => upholds_laterStates (hclock e he)
  rw [← hfollows.sessionId_eq]
  exact ⟨later, hlater.get_answer, hfollows, hlater.lawful⟩

/-- A session that is finished when the calls come in stays as it is finished, with its state and
    with its end. -/
theorem shared_finished {s : Store} (hnumbered : s.database.sessions.Numbered)
    (hgame : Tracked s.database.sessions game) (hfinished : game.status ≠ .inProgress)
    (schedule : List Turn) (hclock : ∀ e, .arrive e ∈ schedule → e.now.HasFourDigitYear) :
    ∃ later, (get game.sessionId).answer (s.shared schedule) = .ok later
      ∧ later.status = game.status ∧ later.endTime = game.endTime
      ∧ game.Follows later ∧ later.Lawful := by
  obtain ⟨later, hget, hfollows, hlawful⟩ := shared_later hnumbered hgame hclock
  have hstatus : later.status = game.status := hfollows.status_final hfinished
  refine ⟨later, hget, hstatus, ?_, hfollows, hlawful⟩
  cases hend : game.endTime with
  | some t => rw [← hend, hfollows.endTime_final (by rw [hend]; rfl)]
  | none =>
      -- a state without an end stays one without an end
      have hnone : ¬game.endTime.isSome = true := by
        rw [hend]
        decide
      rw [hgame.lawful.endTime_iff, ← hstatus, ← hlawful.endTime_iff] at hnone
      simpa using hnone

/-- A session that was opened in a run of calls is held, in some state, after the run. -/
theorem tracked_of_start {trail : Trail} {before : List Event} {trackId : Int}
    {sessionId : String} {client : Client} {now : Instant}
    (hstart : (start trackId sessionId client now).answer ((Store.empty trail).after before)
      = .ok game)
    (hnow : now.HasFourDigitYear) {run : List Event} (hclock : ∀ e ∈ run, e.now.HasFourDigitYear) :
    ∃ later, Tracked ((Store.empty trail).after ((before
        ++ [⟨now, .games (.start trackId sessionId client)⟩]) ++ run)).database.sessions later
      ∧ game.Follows later := by
  obtain ⟨hopened, -⟩ := start_ok hnow hstart
  have hnumbered := numbered_after trail
    (before ++ [⟨now, .games (.start trackId sessionId client)⟩])
  rw [Store.after_append] at hnumbered
  obtain ⟨-, later, hlater, hfollows⟩ := hopened.after hnumbered hclock
  rw [Store.after_append, Store.after_append]
  exact ⟨later, hlater, hfollows⟩

/-- A visit is opened. -/
def openVisit : List Event := oneTrack ++ [⟨⟨1772366400, 0⟩, .games (.start 1 "visit" {})⟩]

/-- A report of one move. -/
def moving : Event :=
  ⟨⟨1772366405, 0⟩, .games (.update "visit" { movesCount := some 1 }
    ⟨fun _ h => (nomatch h), fun _ h => (nomatch h)⟩)⟩

theorem hasInt32Position_success :
    ({ status := some .success } : ProgressReport).HasInt32Position :=
  ⟨fun _ h => (by cases h), fun _ h => by cases h⟩

/-- A report that the visit is won. -/
def winning : Event :=
  ⟨⟨1772366410, 0⟩,
    .games (.update "visit" { status := some .success } hasInt32Position_success)⟩

/-- The visit at its end. -/
def won : GameSession := { visit with status := .success, endTime := some ⟨1772366410, 0⟩ }

theorem tracked_won :
    Tracked ((Store.empty .disabled).after (openVisit ++ [winning])).database.sessions won := by
  have hstart : (start 1 "visit" {} ⟨1772366400, 0⟩).answer
      ((Store.empty .disabled).after oneTrack) = .ok visit := by decide +kernel
  have hget : (get "visit").answer ((Store.empty .disabled).after (openVisit ++ [winning]))
      = .ok won := by decide +kernel
  have hclock : ∀ e ∈ [winning], e.now.HasFourDigitYear := by decide
  obtain ⟨later, hlater, hfollows⟩ := tracked_of_start hstart (by decide) hclock
  rw [← openVisit] at hlater
  have hlaterGet := hlater.get_answer
  rw [hfollows.sessionId_eq] at hlaterGet
  have hsame : won = later := Except.ok.inj (hget.symm.trans hlaterGet)
  rw [hsame]
  exact hlater

/-- Of a visit that is won a late report is read twice before it is written. -/
def late : List Turn :=
  [.arrive moving, .arrive winning, .arrive moving, .step 0, .step 1, .step 2, .step 2, .step 1,
    .step 0]

/-- The visit stays won, at the time at which it was. -/
theorem shared_finished_late :
    let s := (Store.empty .disabled).after (openVisit ++ [winning])
    s.database.sessions.Numbered ∧ Tracked s.database.sessions won ∧ won.status ≠ .inProgress
      ∧ (∀ e, .arrive e ∈ late → e.now.HasFourDigitYear)
      ∧ ∃ later, (get "visit").answer (s.shared late) = .ok later
        ∧ later.status = .success ∧ later.endTime = some ⟨1772366410, 0⟩
        ∧ won.Follows later ∧ later.Lawful := by
  have hnumbered := numbered_after .disabled (openVisit ++ [winning])
  have hclock : ∀ e, .arrive e ∈ late → e.now.HasFourDigitYear := by
    intro e he
    simp only [late, List.mem_cons, Turn.arrive.injEq, reduceCtorEq, or_false,
      List.not_mem_nil] at he
    rcases he with rfl | rfl | rfl <;> decide
  exact ⟨hnumbered, tracked_won, by decide, hclock,
    shared_finished hnumbered tracked_won (by decide) late hclock⟩

/-- A report of one move has read the visit in progress.  Before it goes on, the visit is won. -/
def race : List Turn :=
  [.arrive moving, .step 0, .arrive winning, .step 1, .step 1, .step 1]

/-- The report then writes its copy back, and the visit is in progress again. -/
theorem shared_finished_race :
    let s := (Store.empty .disabled).after openVisit
    (get "visit").answer (s.shared race) = .ok won
      ∧ (get "visit").answer (s.shared (race ++ [.step 0])) = .ok { visit with movesCount := 1 } := by
  decide +kernel

end RobotMaze.Games
