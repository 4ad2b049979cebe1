import RobotMaze.Proofs.Session.Life

/-! # Stored game sessions

    Every stored session can be read, and stays so under reports.  So an operation
    on games fails before it writes, or not at all:

    * `Games.Stored` — what holds of the table of sessions at every moment;
    * `GameSession.exists_read_rowAt` — which sessions can be read once they are
      stored;
    * `start_settles`, `recordQuick_settles`, `update_settles` — how each operation
      ends;
    * `Games.stored_after` — so the sessions of every run can be read. -/

namespace RobotMaze

open Time (Instant)

/-- A game that took a day at most began on the day before it was reported, at the earliest. -/
theorem Time.Instant.InCommonEra.dayAgo {now : Instant} (hnow : now.InCommonEra) {seconds : Int}
    (hnonneg : 0 ≤ seconds) (hday : seconds ≤ 86400) :
    now.addSeconds? (-seconds) = some { now with second := now.second - seconds }
      ∧ ({ now with second := now.second - seconds } : Instant).HasFourDigitYear := by
  have hstarted : ({ now with second := now.second - seconds } : Instant).HasFourDigitYear := by
    refine hnow.yearBefore ?_ ?_ <;>
    · simp only [Instant.dayNumber, Instant.secondsPerDay]
      omega
  have hrange := Instant.inRange_of_hasFourDigitYear hstarted rfl
  refine ⟨?_, hstarted⟩
  simp only [Instant.addSeconds?, Instant.checked?]
  rw [← Int.sub_eq_add_neg, if_pos hrange]

namespace GameSession

/-- A session whose times can be stored can be read from its row. -/
theorem exists_read_rowAt {game : GameSession} (hstart : game.startTime.Storable)
    (hend : ∀ t ∈ game.endTime, t.Storable) (hx : ∀ x ∈ game.errorX, IsInt32 x)
    (hy : ∀ y ∈ game.errorY, IsInt32 y) (id : Int) :
    ∃ stored, (game.rowAt id).read = .ok stored ∧ stored.Settled := by
  obtain ⟨startTime, hreadStart, hsettledStart⟩ := hstart
  have hendTime : ∃ endTime, readTimeOpt (game.endTime.map Instant.stamp) = .ok endTime
      ∧ ∀ t ∈ endTime, t.Settled := by
    cases hsome : game.endTime with
    | none => exact ⟨none, rfl, fun t ht => by cases ht⟩
    | some t =>
        obtain ⟨u, hread, hsettled⟩ := hend t hsome
        refine ⟨some u, readTimeOpt_some hread, fun v hv => ?_⟩
        rw [← Option.some.inj hv]
        exact hsettled
  obtain ⟨endTime, hreadEnd, hsettledEnd⟩ := hendTime
  refine ⟨_, read_rowAt hreadStart hreadEnd hx hy id, ?_⟩
  exact {
    startTime := hsettledStart
    endTime := hsettledEnd
    errorMessage := readText_readText _
    ipAddress := readText_readText _
    userAgent := readText_readText _
    errorX := hx
    errorY := hy }

/-- After a report a session can still be read from its row. -/
theorem Settled.exists_read_applyTo {s next : GameSession} {report : ProgressReport}
    {now : Instant} (hs : s.Settled) (hposition : report.HasInt32Position)
    (happlied : report.applyTo now s = .ok next) (hnow : now.HasFourDigitYear) (id : Int) :
    ∃ stored, (next.rowAt id).read = .ok stored ∧ stored.Settled := by
  obtain ⟨hx, hy⟩ := hs.position_applyTo hposition happlied
  have hold : ∀ t ∈ s.endTime, t.Storable := fun t ht => (hs.endTime t ht).storable
  have htimes : next.startTime = s.startTime ∧ ∀ t ∈ next.endTime, t.Storable := by
    rcases ProgressReport.applyTo_ok happlied with rfl | ⟨status, -, -, rfl⟩
    · exact ⟨rfl, hold⟩
    · refine ⟨rfl, fun t ht => ?_⟩
      simp only [ended] at ht
      by_cases hends : status.endsSession = true
      · rw [if_pos hends] at ht
        rw [← Option.some.inj ht]
        exact hnow.storable
      · rw [if_neg hends] at ht
        exact hold t ht
  exact exists_read_rowAt (htimes.1 ▸ hs.startTime.storable) htimes.2 hx hy id

end GameSession

namespace Games

/-- What holds of the table of sessions at every moment. -/
structure Stored (s : Store) : Prop where
  numbered : s.database.sessions.Numbered
  readable : ∀ r ∈ s.database.sessions.rows, ∃ game, r.read = .ok game ∧ game.Settled

theorem stored_empty (trail : Trail) : Stored (Store.empty trail) :=
  ⟨Table.numbered_empty, fun _ h => by cases h⟩

theorem Stored.of_keeps {α : Type} {s : Store} (hs : Stored s) {op : Op α}
    (h : op.Keeps fun s => s.database.sessions) : Stored (op.run s).2 := by
  have hsame := h.run s
  exact ⟨hsame ▸ hs.numbered, hsame ▸ hs.readable⟩

/-- An operation on games fails and does nothing, or it leaves sessions that can be read. -/
def Settles {α : Type} (s : Store) (r : Except Failure α) (t : Store) : Prop :=
  (∀ f, r = .error f → t = s) ∧ Stored t

section Operations

variable {now : Instant} {s : Store} (hs : Stored s)
include hs

theorem settles_error {α : Type} (f : Failure) : Settles s (.error f : Except Failure α) s :=
  ⟨fun _ _ => rfl, hs⟩

/-- A session that can be read once it is stored. -/
theorem store_settles {game : GameSession}
    (hread : ∀ id, ∃ stored, (game.rowAt id).read = .ok stored ∧ stored.Settled) :
    (store game).Ends s (Settles s) := by
  simp only [store]
  refine Op.Ends.changing (fun f _ => settles_error hs f) fun row db hdb => ?_
  obtain ⟨sessions, hinsert, rfl⟩ := Database.insertSession_ok hdb
  have hnumbered := hs.numbered.insert (fun _ => rfl) hinsert
  obtain ⟨id, -, rfl, -, rfl⟩ := Table.insert_ok hinsert
  obtain ⟨stored, hok, hsettled⟩ := hread id
  rw [hok]
  refine Op.ends_pure ⟨fun _ h => (by cases h), hnumbered, fun r hr => ?_⟩
  rcases List.mem_append.mp hr with hold | hnew
  · exact hs.readable r hold
  · rw [List.mem_singleton.mp hnew]
    exact ⟨stored, hok, hsettled⟩

theorem start_settles (hnow : now.HasFourDigitYear) (trackId : Int) (sessionId : String)
    (client : Client) : (start trackId sessionId client now).Ends s (Settles s) := by
  simp only [start]
  refine Op.Ends.reading (Tracks.keeps_get _) (fun f _ => settles_error hs f) fun t _ => ?_
  refine Op.Ends.reading (keeps_cellsOf t) (fun f _ => settles_error hs f) fun cells _ => ?_
  exact store_settles hs (GameSession.exists_read_rowAt hnow.storable (fun _ h => by cases h)
    (fun _ h => by cases h) fun _ h => by cases h)

theorem recordQuick_settles (hnow : now.InCommonEra) (trackId : Int) (completed : Bool)
    (seconds moves : Int) (client : Client) :
    (recordQuick trackId completed seconds moves client now).Ends s (Settles s) := by
  simp only [recordQuick]
  by_cases hlong : maxQuickSeconds < max seconds 0
  · simp only [if_pos hlong]
    exact Op.ends_throw (settles_error hs _)
  simp only [if_neg hlong]
  refine Op.Ends.reading (Tracks.keeps_get _) (fun f _ => settles_error hs f) fun t _ => ?_
  refine Op.Ends.reading (keeps_cellsOf t) (fun f _ => settles_error hs f) fun cells _ => ?_
  obtain ⟨hstart, hstarted⟩ := hnow.dayAgo (Int.le_max_right _ _) (Int.not_lt.mp hlong)
  simp only [hstart]
  refine Op.Ends.reading (Op.keeps_query _) (fun f _ => settles_error hs f) fun id _ => ?_
  refine store_settles hs (GameSession.exists_read_rowAt hstarted.storable (fun u hu => ?_)
    (fun _ h => by cases h) fun _ h => by cases h)
  rw [← Option.some.inj hu]
  exact hnow.hasFourDigitYear.storable

theorem update_settles (hnow : now.HasFourDigitYear) (sessionId : String)
    {report : ProgressReport} (hposition : report.HasInt32Position) :
    (update sessionId report now).Ends s (Settles s) := by
  simp only [update]
  refine Op.Ends.reading (Op.keeps_ofCheck _) (fun f _ => settles_error hs f) fun _ _ => ?_
  refine Op.Ends.reading (keeps_get sessionId) (fun f _ => settles_error hs f) fun game hget => ?_
  obtain ⟨rfl, row, hfound, hread⟩ := get_ok hget
  have hmem := List.mem_of_find?_eq_some hfound
  have hsettled : game.Settled := by
    obtain ⟨stored, hok, hstored⟩ := hs.readable row hmem
    obtain rfl := Except.ok.inj (hread.symm.trans hok)
    exact hstored
  cases happly : report.applyTo now game with
  | error f => exact Op.ends_throw (settles_error hs _)
  | ok next =>
      obtain ⟨written, hwritten, hwrittenSettled⟩ :=
        hsettled.exists_read_applyTo hposition happly hnow row.id
      have hnext : next.sessionId = game.sessionId := ProgressReport.sessionId_applyTo happly
      rw [← hnext] at hfound ⊢
      refine Op.Ends.changing (fun f _ => settles_error hs f) fun n db hdb => ?_
      obtain ⟨rfl, hsearch⟩ := updateSession_found hs.numbered hfound hdb
      refine Op.Reads.ends (keeps_get _) (get_of_find hsearch hwritten)
        ⟨fun _ h => (by cases h), hs.numbered.changed fun _ => rfl, fun r hr => ?_⟩
      rcases (hs.numbered.mem_changed (hs.numbered.find?_id hmem)).mp hr with hother | rfl
      · exact hs.readable r (Table.mem_others.mp hother).1
      · exact ⟨written, hwritten, hwrittenSettled⟩

end Operations

/-! ## Runs -/

theorem Stored.next {s : Store} (hs : Stored s) {e : Event} (hnow : e.now.InCommonEra) :
    Stored (s.next e) := by
  obtain ⟨now, c⟩ := e
  cases c with
  | games c =>
      cases c with
      | start trackId sessionId client =>
          exact (start_settles hs hnow.hasFourDigitYear trackId sessionId client).2
      | update sessionId report position =>
          exact (update_settles hs hnow.hasFourDigitYear sessionId position).2
      | recordQuick trackId completed seconds moves client =>
          exact (recordQuick_settles hs hnow trackId completed seconds moves client).2
      | _ => exact hs.of_keeps (Call.keeps_of_reading rfl)
  | _ => exact hs.of_keeps (Call.keeps_sessions fun _ h => by cases h)

/-- The sessions of every run can be read. -/
theorem stored_after (trail : Trail) {run : List Event} (hnow : ∀ e ∈ run, e.now.InCommonEra) :
    Stored ((Store.empty trail).after run) :=
  Store.after_invariant (P := Stored) (fun e he _ hs => hs.next (hnow e he)) (stored_empty trail)

end Games

end RobotMaze
