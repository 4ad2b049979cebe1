import RobotMaze.Proofs.Robot.Loops
import RobotMaze.Proofs.Track.Writes

/-! # Stored tracks — what holds after every run of the service

    Whatever was called before, with whatever outcome, every stored track obeys
    the rules of its fields and no two active tracks share a name.

    * `Tracks.Stored` is the invariant, `Stored.next` that every call keeps it;
    * `Stored.runProgram_ok`, `Stored.start_error` — a stored track is always one
      that can be played;
    * `Tracks.stored_sound` — both after any run from an empty store. -/

namespace RobotMaze

open Time (Instant)

namespace Tracks

/-- Two rows are not both active under one name. -/
def NamesApart (r s : TrackRow) : Prop :=
  ¬(Database.trackIsActive r = true ∧ Database.trackIsActive s = true ∧ r.name = s.name)

/-- What holds of the table of tracks at every moment. -/
structure Stored (s : Store) : Prop where
  numbered : s.database.tracks.Numbered
  kept : ∀ r ∈ s.database.tracks.rows, Kept r
  apart : s.database.tracks.rows.Pairwise NamesApart

theorem stored_empty (trail : Trail) : Stored (Store.empty trail) :=
  ⟨Table.numbered_empty, fun _ h => (nomatch h), List.Pairwise.nil⟩

/-- The table accepts no row whose name another active one has. -/
theorem apart_of_acceptable {r : TrackRow} {others : List TrackRow}
    (h : Database.trackIsAcceptable r others = true) : ∀ s ∈ others, NamesApart r s := by
  intro s hs hsame
  obtain ⟨hr, hactive, hname⟩ := hsame
  simp only [Database.trackIsAcceptable] at h
  have hany : (others.any fun o => Database.trackIsActive o && o.name == r.name) = true :=
    List.any_eq_true.mpr ⟨s, hs, by simp [hactive, hname]⟩
  rw [hr, hany] at h
  simp at h

/-- A call writes one row of the table at most. -/
theorem writes_next {e : Event} (hnow : e.now.HasFourDigitYear) (s : Store) :
    Writes s (s.next e) := by
  obtain ⟨now, call⟩ := e
  cases call with
  | tracks c => exact c.writes hnow s
  | _ => exact writes_of_keeps s (Call.keeps_tracks fun _ h => nomatch h)

namespace Stored

variable {s t : Store}

theorem writes (hs : Stored s) (h : Writes s t) : Stored t where
  numbered := Table.Written.numbered h hs.numbered
  kept := Table.Written.forall_rows h hs.numbered hs.kept
  apart := by
    refine Table.Written.pairwise_rows h hs.numbered ?_ apart_of_acceptable hs.apart
    intro a b hab hba
    obtain ⟨hb, ha, hname⟩ := hba
    exact hab ⟨ha, hb, hname.symm⟩

/-- Every call keeps the invariant. -/
theorem next (hs : Stored s) {e : Event} (hnow : e.now.HasFourDigitYear) : Stored (s.next e) :=
  hs.writes (writes_next hnow s)

/-- The invariant holds after every run. -/
theorem after (hs : Stored s) {run : List Event} (hnow : ∀ e ∈ run, e.now.HasFourDigitYear) :
    Stored (s.after run) :=
  Store.after_invariant (fun e he _ hs => hs.next (hnow e he)) hs

/-! ## Playing a stored track -/

theorem nodup_activeNames (hs : Stored s) : (s.database.activeTracks.map TrackRow.name).Nodup := by
  refine List.pairwise_map.mpr ?_
  refine (List.Pairwise.filter _ hs.apart).imp_of_mem ?_
  intro a b ha hb hab hname
  exact hab ⟨(List.mem_filter.mp ha).2, (List.mem_filter.mp hb).2, hname⟩

/-- A stored track is found under its id, and it can be read. -/
theorem get_answer (hs : Stored s) {r : TrackRow} (hr : r ∈ s.database.tracks.rows) :
    ∃ t, r.read = .ok t ∧ (get r.id).answer s = .ok t := by
  have hkept := hs.kept r hr
  obtain ⟨t, hread⟩ := TrackRow.exists_read hkept.sound hkept.readable
  refine ⟨t, hread, ?_⟩
  have hfind : s.database.tracks.find? r.id = some r := hs.numbered.find?_id hr
  simp only [get]
  rw [Op.Reads.answer_bind (Op.keeps_query _), Op.answer_query]
  simp only [Database.trackById]
  rw [hfind]
  show (Op.ofRead r.read).answer s = _
  rw [Op.answer_ofRead, hread]

/-- An active track is found as one that can be played. -/
theorem getActive_answer (hs : Stored s) {r : TrackRow} (hr : r ∈ s.database.activeTracks) :
    ∃ t, r.read = .ok t ∧ (getActive r.id).answer s = .ok t := by
  obtain ⟨hmem, hactive⟩ := List.mem_filter.mp hr
  obtain ⟨t, hread, hget⟩ := hs.get_answer hmem
  have hflag : t.isActive = true := by
    rw [TrackRow.eq_of_read hread, eq_of_beq hactive]
    rfl
  refine ⟨t, hread, ?_⟩
  simp only [getActive]
  rw [Op.Reads.answer_bind (keeps_get r.id), hget]
  simp only [hflag, if_true]
  rfl

/-- The grid of a stored track can be read, and its start cell lies on the path. -/
theorem grid_of_read {r : TrackRow} {t : Track} (hr : r.Sound) (hread : r.read = .ok t) :
    ∃ g, t.grid = .ok g ∧ g.isPath t.startX t.startY = true := by
  obtain ⟨g, hparse, -, hpath⟩ := hr.layout
  have ht := TrackRow.eq_of_read hread
  refine ⟨g, ?_, ?_⟩
  · rw [Track.grid, ht]
    exact hparse
  · rw [ht]
    exact hpath

theorem runProgram_ok (hs : Stored s) {r : TrackRow} (hr : r ∈ s.database.activeTracks)
    {moves : List Move} (hmoves : moves.length ≤ maxProgramMoves) :
    ∃ o, (Games.runProgram r.id moves).answer s = .ok o := by
  obtain ⟨t, hread, hgetActive⟩ := hs.getActive_answer hr
  obtain ⟨g, hgrid, hpath⟩ := grid_of_read (hs.kept r (List.mem_of_mem_filter hr)).sound hread
  simp only [Games.runProgram]
  rw [Op.Reads.answer_bind (keeps_getActive r.id), hgetActive]
  simp only [hgrid]
  rw [Op.Reads.answer_bind (Op.keeps_ofCheck _), Op.answer_ofCheck]
  show ∃ o, (Op.ofCheck (simulate g t.start t.heading moves)).answer s = .ok o
  rw [simulate_of_length_le hmoves, if_pos (show g.isPath t.start.x t.start.y = true from hpath)]
  exact ⟨_, rfl⟩

/-- The store refuses a session, or what it stored cannot be read; there is no other failure. -/
theorem category_store {game : GameSession} {e : Failure}
    (h : (Games.store game).answer s = .error e) : e.category ≠ .validation := by
  have hends : (Games.store game).Ends s fun r _ =>
      ∀ e, r = .error e → e.category ≠ .validation := by
    simp only [Games.store]
    refine Op.Ends.changing ?_ fun row db _ => ?_
    · intro e he e' heq
      injection heq with heq
      rw [← heq, Database.insertSession_error he]
      intro hcategory
      cases hcategory
    · intro e he
      rw [Op.answer_ofRead] at he
      obtain ⟨v, rfl⟩ := row.read_error e he
      intro hcategory
      cases hcategory
  exact hends e h

/-- No session on a stored track is rejected by a rule. -/
theorem start_error (hs : Stored s) {r : TrackRow} (hr : r ∈ s.database.tracks.rows)
    {sessionId : String} {client : Games.Client} {now : Instant} {e : Failure}
    (h : (Games.start r.id sessionId client now).answer s = .error e) :
    e.category ≠ .validation := by
  obtain ⟨t, hread, hget⟩ := hs.get_answer hr
  obtain ⟨g, hgrid, -⟩ := grid_of_read (hs.kept r hr).sound hread
  have hcells : (Games.cellsOf t).answer s = .ok g.pathCount := by
    simp only [Games.cellsOf]
    rw [hgrid, Op.Reads.answer_bind (Op.keeps_ofCheck _), Op.answer_ofCheck]
    rfl
  simp only [Games.start] at h
  rw [Op.Reads.answer_bind (keeps_get r.id), hget] at h
  simp only at h
  rw [Op.Reads.answer_bind (Games.keeps_cellsOf t), hcells] at h
  exact category_store h

end Stored

/-- After every run, whatever was called with whatever outcome, every stored track obeys the rules
    of its fields, no two active ones share a name, every active one runs every program that is not
    too long, and no stored one is rejected by a rule when a session is opened on it. -/
theorem stored_sound (trail : Trail) (run : List Event)
    (hnow : ∀ e ∈ run, e.now.HasFourDigitYear) :
    let s := (Store.empty trail).after run
    (∀ r ∈ s.database.allTracks, r.Sound)
      ∧ (s.database.activeTracks.map TrackRow.name).Nodup
      ∧ (∀ r ∈ s.database.activeTracks, ∀ moves : List Move, moves.length ≤ 200 →
          ∃ o, (Games.runProgram r.id moves).answer s = .ok o)
      ∧ ∀ r ∈ s.database.allTracks, ∀ sessionId client now e,
          (Games.start r.id sessionId client now).answer s = .error e →
            e.category ≠ .validation := by
  intro s
  have hs : Stored s := (stored_empty trail).after hnow
  -- the rules are part of the invariant, and playing a track asks for no more than them
  refine ⟨fun r hr => (hs.kept r hr).sound, hs.nodup_activeNames, ?_, ?_⟩
  · intro r hr moves hmoves
    exact hs.runProgram_ok hr hmoves
  · intro r hr sessionId client now e h
    exact hs.start_error hr h

/-- A track is created and its start cell moved; a second one of its name is refused, and so is its
    deletion, for it is the last one. -/
def openingRun : List Event :=
  let noon : Instant := ⟨1772366400, 0⟩
  let corridor : NewTrack := ⟨" Corridor ", Grid.corridor.render, 0, 0, .east, none, some "  "⟩
  [⟨noon, .tracks (.create corridor {})⟩,
    ⟨noon, .tracks (.update 1 { startX := some 3, isActive := some true } {})⟩,
    ⟨noon, .tracks (.create corridor {})⟩,
    ⟨noon, .tracks (.delete 1 {})⟩]

/-- One track is left, active and with its new start, and every program can be run on it. -/
theorem stored_sound_openingRun :
    (∀ e ∈ openingRun, e.now.HasFourDigitYear)
      ∧ let s := (Store.empty .disabled).after openingRun
        s.database.activeTracks.map (fun r => (r.name, r.startX)) = [("Corridor", 3)]
          ∧ (∀ r ∈ s.database.allTracks, r.Sound)
          ∧ (s.database.activeTracks.map TrackRow.name).Nodup
          ∧ (∀ r ∈ s.database.activeTracks, ∀ moves : List Move, moves.length ≤ 200 →
              ∃ o, (Games.runProgram r.id moves).answer s = .ok o)
          ∧ ∀ r ∈ s.database.allTracks, ∀ sessionId client now e,
              (Games.start r.id sessionId client now).answer s = .error e →
                e.category ≠ .validation :=
  ⟨by decide, by decide +kernel, stored_sound .disabled openingRun (by decide)⟩

end Tracks

end RobotMaze
