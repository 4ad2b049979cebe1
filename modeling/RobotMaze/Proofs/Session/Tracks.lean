import RobotMaze.Proofs.Service.Traffic

/-! # Sessions and their tracks

    Tracks are deactivated and never taken away, and a session is written only if
    its track is there.  So every stored session belongs to a stored track:

    * `onTracks` — what all calls rely on;
    * `insertTrack_upholds_onTracks`, … — that each change of the two tables keeps
      it;
    * `upholds_onTracks` — that every call does;
    * `onTracks_shared` — so it holds after every schedule. -/

namespace RobotMaze

open Time (Instant)

/-- No two tracks share an id, nor do two sessions, and each session belongs to a track. -/
def onTracks : Pact Store :=
  .always fun s => s.database.tracks.Numbered ∧ s.database.sessions.Numbered
    ∧ ∀ r ∈ s.database.sessions.rows, ∃ t ∈ s.database.tracks.rows, t.id = r.trackId

/-- The tracks and the game sessions of a store. -/
def Store.games (s : Store) : Table TrackRow × Table SessionRow :=
  (s.database.tracks, s.database.sessions)

theorem onTracks_sees : onTracks.Sees Store.games :=
  Pact.always_sees (Q := fun games : Table TrackRow × Table SessionRow =>
    games.1.Numbered ∧ games.2.Numbered ∧ ∀ r ∈ games.2.rows, ∃ t ∈ games.1.rows, t.id = r.trackId)

theorem besideAudit_games : BesideAudit Store.games := ⟨fun _ _ => rfl, fun _ _ => rfl⟩

/-! ## Changes -/

/-- A session is accepted only if its track is there. -/
theorem Database.exists_track_of_acceptable {db : Database} {r : SessionRow}
    {others : List SessionRow} (h : db.sessionIsAcceptable r others = true) :
    ∃ t ∈ db.tracks.rows, t.id = r.trackId := by
  obtain ⟨t, ht⟩ := Option.isSome_iff_exists.mp (Bool.and_eq_true_iff.mp h).2
  exact ⟨t, Table.find?_eq_some ht⟩

theorem insertTrack_upholds_onTracks (t : CheckedTrack) (createdBy : Option String)
    (now : Instant) : (Op.change (Database.insertTrack t createdBy now)).Upholds onTracks := by
  refine fun s => Op.honours_change fun u _ hholds row db hchange => ⟨?_, trivial⟩
  obtain ⟨hnumbered, hids, hsessions⟩ := hholds
  obtain ⟨tracks, hinsert, rfl⟩ := Database.insertTrack_ok hchange
  have htracks := hnumbered.insert (fun _ => rfl) hinsert
  obtain ⟨id, -, -, -, rfl⟩ := Table.insert_ok hinsert
  refine ⟨htracks, hids, fun r hr => ?_⟩
  obtain ⟨v, hv, hid⟩ := hsessions r hr
  exact ⟨v, List.mem_append_left _ hv, hid⟩

/-- A change of a track that keeps its id takes no track away. -/
theorem modifyTrack_upholds_onTracks {id : Int} {condition : Database → TrackRow → Bool}
    {f : TrackRow → TrackRow} (hid : ∀ r, Row.id (f r) = Row.id r) :
    (Op.change (Database.modifyTrack id condition f)).Upholds onTracks := by
  refine fun s => Op.honours_change fun u _ hholds n db hchange => ⟨?_, trivial⟩
  obtain ⟨hnumbered, hids, hsessions⟩ := hholds
  obtain ⟨tracks, hmodify, rfl⟩ := Database.modifyTrack_ok hchange
  refine ⟨hnumbered.modify hid hmodify, hids, fun r hr => ?_⟩
  obtain ⟨v, hv, hvid⟩ := hsessions r hr
  rcases Table.modify_ok hmodify with ⟨-, rfl⟩ | ⟨w, hfind, -, -, -, rfl⟩
  · exact ⟨v, hv, hvid⟩
  · exact hnumbered.exists_changed hfind ⟨v, hv, hvid⟩ fun hw => Or.inl ((hid w).trans hw)

theorem insertSession_upholds_onTracks (game : GameSession) :
    (Op.change (Database.insertSession game)).Upholds onTracks := by
  refine fun s => Op.honours_change fun u _ hholds row db hchange => ⟨?_, trivial⟩
  obtain ⟨hnumbered, hids, hsessions⟩ := hholds
  obtain ⟨sessions, hinsert, rfl⟩ := Database.insertSession_ok hchange
  have hsessionIds := hids.insert (fun _ => rfl) hinsert
  obtain ⟨id, -, rfl, hacceptable, rfl⟩ := Table.insert_ok hinsert
  refine ⟨hnumbered, hsessionIds, fun r hr => ?_⟩
  rcases List.mem_append.mp hr with hr | hr
  · exact hsessions r hr
  · rw [List.mem_singleton.mp hr]
    exact Database.exists_track_of_acceptable hacceptable

theorem updateSession_upholds_onTracks (game : GameSession) :
    (Op.change (Database.updateSession game)).Upholds onTracks := by
  refine fun s => Op.honours_change fun u _ hholds n db hchange => ⟨?_, trivial⟩
  obtain ⟨hnumbered, hids, hsessions⟩ := hholds
  rcases Database.updateSession_ok hchange with ⟨-, rfl⟩ | ⟨row, sessions, -, hmodify, rfl⟩
  · exact ⟨hnumbered, hids, hsessions⟩
  have hrowIds : ∀ r : SessionRow, Row.id (game.rowAt r.id) = Row.id r := fun _ => rfl
  have hsessionIds := hids.modify hrowIds hmodify
  rcases Table.modify_ok hmodify with ⟨-, rfl⟩ | ⟨v, -, -, hacceptable, -, rfl⟩
  · exact ⟨hnumbered, hids, hsessions⟩
  refine ⟨hnumbered, hsessionIds, fun r hr => ?_⟩
  obtain ⟨w, hw, rfl⟩ := List.mem_map.mp hr
  split
  · -- whichever row was replaced, the new one is on the track that was looked up
    exact Database.exists_track_of_acceptable hacceptable
  · exact hsessions w hw

/-! ## Calls -/

theorem Tracks.Call.upholds_onTracks (c : Tracks.Call) (now : Instant) :
    (c.op now).2.Upholds onTracks := by
  have hnote := fun e => (AuditLog.keeps_note besideAudit_games e now).upholds onTracks_sees
  have hstore : ∀ t actor, (Tracks.store t actor now).Upholds onTracks := fun t actor =>
    Op.upholds_bind (insertTrack_upholds_onTracks t actor.username now) fun _ =>
      Op.Reads.upholds (Op.keeps_ofRead _)
  cases c with
  | create input actor =>
      show (Tracks.create input actor now).Upholds _
      simp only [Tracks.create]
      grind
  | update id change actor =>
      have hmodify : ∀ condition name grid, (Op.change (Database.modifyTrack id condition
          (changeRow change name grid now))).Upholds onTracks :=
        fun _ _ _ => modifyTrack_upholds_onTracks fun _ => rfl
      show (Tracks.update id change actor now).Upholds _
      simp only [Tracks.update]
      grind
  | delete id actor =>
      have hmodify : ∀ condition, (Op.change (Database.modifyTrack id condition
          fun r => { r with isActive := 0, updatedAt := now.stamp })).Upholds onTracks :=
        fun _ => modifyTrack_upholds_onTracks fun _ => rfl
      show (Tracks.delete id actor now).Upholds _
      simp only [Tracks.delete]
      grind
  | reactivate id actor =>
      have hmodify : ∀ condition, (Op.change (Database.modifyTrack id condition
          fun r => { r with isActive := 1, updatedAt := now.stamp })).Upholds onTracks :=
        fun _ => modifyTrack_upholds_onTracks fun _ => rfl
      show (Tracks.reactivate id actor now).Upholds _
      simp only [Tracks.reactivate]
      grind
  | importOne doc actor =>
      show (Tracks.importOne doc actor now).Upholds _
      simp only [Tracks.importOne]
      grind
  | _ => exact (Tracks.Call.keeps_of_reading besideAudit_games rfl).upholds onTracks_sees

theorem Games.Call.upholds_onTracks (c : Games.Call) (now : Instant) :
    (c.op now).2.Upholds onTracks := by
  have hstore : ∀ game, (Games.store game).Upholds onTracks := fun game =>
    Op.upholds_bind (insertSession_upholds_onTracks game) fun _ =>
      Op.Reads.upholds (Op.keeps_ofRead _)
  have hupdate := updateSession_upholds_onTracks
  cases c with
  | start trackId sessionId client =>
      show (Games.start trackId sessionId client now).Upholds _
      simp only [Games.start]
      grind
  | update sessionId report position =>
      show (Games.update sessionId report now).Upholds _
      simp only [Games.update]
      grind
  | recordQuick trackId completed seconds moves client =>
      show (Games.recordQuick trackId completed seconds moves client now).Upholds _
      simp only [Games.recordQuick]
      grind
  | _ => exact (Games.Call.keeps_of_reading rfl).upholds onTracks_sees

/-- Every call leaves each session on a track. -/
theorem upholds_onTracks (e : Event) : (e.call.op e.now).2.Upholds onTracks := by
  have husers : BesideUsers Store.games := fun _ _ => rfl
  have hlogins : BesideLogins Store.games := fun _ _ => rfl
  obtain ⟨now, c⟩ := e
  cases c with
  | tracks c => exact c.upholds_onTracks now
  | games c => exact c.upholds_onTracks now
  | users c => exact (c.keeps husers hlogins besideAudit_games).upholds onTracks_sees
  | logins c => exact (c.keeps husers hlogins besideAudit_games).upholds onTracks_sees
  | audit c => exact (c.keeps besideAudit_games).upholds onTracks_sees
  | reports c => exact c.keeps.upholds onTracks_sees

/-- After any calls, one after another, and then at any moment while others overlap, each session is
    on a track. -/
theorem onTracks_shared (trail : Trail) (run : List Event) (schedule : List Turn) :
    onTracks.holds (((Store.empty trail).after run).shared schedule) := by
  have hempty : onTracks.holds (Store.empty trail) :=
    ⟨Table.numbered_empty, Table.numbered_empty, fun _ h => nomatch h⟩
  exact Store.holds_shared hempty (fun e _ => upholds_onTracks e) fun e _ => upholds_onTracks e

end RobotMaze
