import RobotMaze.Proofs.Secrecy.Twins
import RobotMaze.Proofs.Service.Frames
import RobotMaze.Service.Logins
import RobotMaze.Service.Reports

/-! # Services that know of no hashes

    Apart from the service for users nobody asks for a password hash, so that it
    makes no difference which hashes there are:

    * `AuditLog.blind_note` — for the audit log, which all others write to;
    * `Tracks.blind_update`, `Games.blind_start`, … — for tracks and games;
    * `Logins.blind_resolve` — for who is logged in, which depends on who is
      active;
    * `Reports.blind_report`, … — for the figures. -/

namespace RobotMaze

open Time (Instant)

/-! ## Changes of other tables -/

namespace Op

/-- A new track is checked against the other tracks only. -/
@[grind ←]
theorem blind_insertTrack (t : CheckedTrack) (createdBy : Option String) (now : Instant) :
    Blind (change (Database.insertTrack t createdBy now)) :=
  blind_change fun _ => bind_eq_map_bind fun _ => rfl

/-- A track is changed without a look at any hash, as long as the condition looks at none. -/
@[grind ←]
theorem blind_modifyTrack {id : Int} {condition : Database → TrackRow → Bool}
    {f : TrackRow → TrackRow}
    (hcondition : ∀ db row, condition db.withoutHashes row = condition db row) :
    Blind (change (Database.modifyTrack id condition f)) := by
  refine blind_change fun db => ?_
  rw [Database.modifyTrack, funext (hcondition db)]
  exact bind_eq_map_bind fun _ => rfl

/-- A new session looks at the other sessions and at its track. -/
@[grind ←]
theorem blind_insertSession (s : GameSession) : Blind (change (Database.insertSession s)) :=
  blind_change fun _ => bind_eq_map_bind fun _ => rfl

/-- A session is written back over its own row. -/
@[grind ←]
theorem blind_updateSession (s : GameSession) : Blind (change (Database.updateSession s)) := by
  refine blind_change fun db => ?_
  have hsessions : db.withoutHashes.sessions = db.sessions := rfl
  simp only [Database.updateSession, hsessions]
  cases db.sessions.rows.find? fun r => r.sessionId == s.sessionId with
  | none => rfl
  | some row => exact bind_eq_map_bind fun _ => rfl

/-- The account that an entry names is looked up by its id, not by its hash. -/
@[grind ←]
theorem blind_insertAudit (e : AuditEvent) (now : Instant) :
    Blind (change (Database.insertAudit e now)) :=
  blind_change fun _ => bind_eq_map_bind fun _ => rfl

/-- A login needs the account to be there, whatever its hash is. -/
@[grind ←]
theorem blind_insertLogin (s : LoginSession) : Blind (change (Database.insertLogin s)) :=
  blind_change fun db => db.insertLogin_withoutHashes s

/-- Logins are removed by what their own rows say. -/
theorem blind_deleteLogins (test : LoginRow → Bool) :
    Blind (change fun db => .ok (db.deleteLogins test) : Op Nat) := blind_change fun _ => rfl

end Op

/-! ## The audit log -/

namespace AuditLog

/-- An entry is written with its line in the trail, and none holds a hash. -/
@[grind ←]
theorem blind_record (e : AuditEvent) (now : Instant) : Blind (record e now) := by
  simp only [record]
  grind

/-- A failure to write the entry is swallowed in both runs alike. -/
@[grind ←]
theorem blind_note (e : AuditEvent) (now : Instant) : Blind (note e now) := by
  simp only [note]
  grind

/-- Rows of the audit log are read without the accounts. -/
@[grind ←]
theorem blind_readAll (rows : List AuditRow) : Blind (readAll rows) := Op.blind_ofRead _

@[grind ←]
theorem blind_get (id : Int) : Blind (get id) := by
  have hquery : Blind (Op.query (Database.auditById id)) := Op.blind_query fun _ => rfl
  simp only [get]
  grind

/-- A page of the log is the same over both stores. -/
@[grind ←]
theorem blind_page (f : Database.AuditFilter) (p : PageRequest) : Blind (page f p) := by
  have hcount : Blind (Op.query fun db => (db.auditAccepted f).length) :=
    Op.blind_query fun _ => rfl
  have hrows : Blind (Op.queryRead (Database.pageOfAudit f p)) := Op.blind_queryRead fun _ => rfl
  simp only [page]
  grind

/-- What is exported of the log is the same over both stores. -/
@[grind ←]
theorem blind_exportLines (f : Database.AuditFilter) : Blind (exportLines f) := by
  have hquery : Blind (Op.query (Database.listAudit f)) := Op.blind_query fun _ => rfl
  simp only [exportLines, list]
  grind

@[grind ←]
theorem blind_recent (limit : UInt32) : Blind (recent limit) := by
  have hquery : Blind (Op.query (Database.recentAudit limit)) := Op.blind_query fun _ => rfl
  simp only [recent]
  grind

@[grind ←]
theorem blind_latest : Blind latest := by
  simp only [latest]
  grind

end AuditLog

/-! ## Tracks -/

namespace Tracks

@[grind ←]
theorem blind_readAll (rows : List TrackRow) : Blind (readAll rows) := Op.blind_ofRead _

@[grind ←]
theorem blind_get (id : Int) : Blind (get id) := by
  have hquery : Blind (Op.query (Database.trackById id)) := Op.blind_query fun _ => rfl
  simp only [get]
  grind

/-- Whether a track is inactive does not depend on any account. -/
@[grind ←]
theorem blind_getActive (id : Int) : Blind (getActive id) := by
  simp only [getActive]
  grind

@[grind ←]
theorem blind_page (p : PageRequest) : Blind (page p) := by
  have hcount : Blind (Op.query Database.countTracks) := Op.blind_query fun _ => rfl
  have hrows : Blind (Op.queryRead (Database.pageOfTracks p)) := Op.blind_queryRead fun _ => rfl
  simp only [page]
  grind

@[grind ←]
theorem blind_all : Blind all :=
  blind_bind (Op.blind_query fun _ => rfl) blind_readAll

@[grind ←]
theorem blind_active : Blind active :=
  blind_bind (Op.blind_query fun _ => rfl) blind_readAll

/-- The same number picks the same track in both stores. -/
@[grind ←]
theorem blind_random (number : Nat) : Blind (random number) :=
  blind_bind (Op.blind_query fun _ => rfl) fun _ => Op.blind_ofRead _

/-- Leaving out the last track picks the same one of the others. -/
@[grind ←]
theorem blind_pick (excluded : Option Int) (number : Nat) : Blind (pick excluded number) := by
  cases excluded with
  | none => exact blind_random number
  | some id =>
      refine blind_bind (Op.blind_query fun _ => rfl) fun row => ?_
      cases row with
      | none => exact blind_random number
      | some row => exact Op.blind_ofRead _

/-- What a search for tracks finds has nothing to do with the accounts. -/
@[grind ←]
theorem blind_search (term : String) : Blind (search term) :=
  blind_bind (Op.blind_query fun _ => rfl) blind_readAll

@[grind ←]
theorem blind_levels : Blind levels :=
  blind_bind (Op.blind_query fun _ => rfl) fun _ => blind_pure _

/-- Whether a name is taken is a matter of the tracks. -/
@[grind ←]
theorem blind_requireName (name : String) (except : Option Int) (taken : Conflict) :
    Blind (requireName name except taken) := by
  have hquery : Blind (Op.query (Database.countTrackName name (except.getD (-1)))) :=
    Op.blind_query fun _ => rfl
  simp only [requireName, isNameAvailable]
  grind

/-- Storing a track writes its row and an entry. -/
@[grind ←]
theorem blind_store (t : CheckedTrack) (actor : Actor) (now : Instant) :
    Blind (store t actor now) := by
  simp only [store]
  grind

/-- A track is created the same in both stores, its refusals included. -/
@[grind ←]
theorem blind_create (input : NewTrack) (actor : Actor) (now : Instant) :
    Blind (create input actor now) := by
  simp only [create]
  grind

/-- Whether a change of a track is refused does not depend on the accounts. -/
@[grind ←]
theorem blind_checkChange (id : Int) (c : TrackChange) (current : Track) :
    Blind (checkChange id c current) := by
  simp only [checkChange]
  grind

/-- A track is updated the same in both stores. -/
@[grind ←]
theorem blind_update (id : Int) (c : TrackChange) (actor : Actor) (now : Instant) :
    Blind (update id c actor now) := by
  have hleaves : ∀ db row, Database.leavesActiveTrack db.withoutHashes row
      = Database.leavesActiveTrack db row := fun _ _ => rfl
  simp only [update]
  grind

/-- A track is deactivated the same in both stores, the guard of the last one included. -/
@[grind ←]
theorem blind_delete (id : Int) (actor : Actor) (now : Instant) : Blind (delete id actor now) := by
  have hleaves : ∀ db row, Database.leavesActiveTrack db.withoutHashes row
      = Database.leavesActiveTrack db row := fun _ _ => rfl
  simp only [delete]
  grind

/-- A track is reactivated the same in both stores. -/
@[grind ←]
theorem blind_reactivate (id : Int) (actor : Actor) (now : Instant) :
    Blind (reactivate id actor now) := by
  have hchange : ∀ f, Blind (Op.change (Database.modifyTrack id (fun _ _ => true) f)) :=
    fun _ => Op.blind_modifyTrack fun _ _ => rfl
  simp only [reactivate]
  grind

/-- The document of a track, and the entry on its export, are the same. -/
@[grind ←]
theorem blind_exportOne (id : Int) (actor : Actor) (now : Instant) :
    Blind (exportOne id actor now) := by
  simp only [exportOne]
  grind

/-- The documents of all tracks, and the entry on their export, are the same. -/
@[grind ←]
theorem blind_exportAll (activeOnly : Bool) (actor : Actor) (now : Instant) :
    Blind (exportAll activeOnly actor now) := by
  simp only [exportAll]
  grind

/-- A document becomes the same track in both stores. -/
@[grind ←]
theorem blind_importOne (doc : TrackDocument) (actor : Actor) (now : Instant) :
    Blind (importOne doc actor now) := by
  simp only [importOne]
  grind

end Tracks

/-! ## Games -/

namespace Games

@[grind ←]
theorem blind_store (s : GameSession) : Blind (store s) := by
  simp only [store]
  grind

/-- The grid of a track is read off its own row. -/
@[grind ←]
theorem blind_cellsOf (t : Track) : Blind (cellsOf t) := by
  simp only [cellsOf]
  grind

/-- A game is started the same in both stores. -/
@[grind ←]
theorem blind_start (trackId : Int) (sessionId : String) (client : Client) (now : Instant) :
    Blind (start trackId sessionId client now) := by
  simp only [start]
  grind

@[grind ←]
theorem blind_get (sessionId : String) : Blind (get sessionId) := by
  have hquery : Blind (Op.query (Database.sessionById sessionId)) := Op.blind_query fun _ => rfl
  simp only [get]
  grind

/-- Reported progress is written the same in both stores. -/
@[grind ←]
theorem blind_update (sessionId : String) (report : ProgressReport) (now : Instant) :
    Blind (update sessionId report now) := by
  simp only [update]
  grind

@[grind ←]
theorem blind_recent (limit : UInt32) : Blind (recent limit) :=
  blind_bind (Op.blind_query fun _ => rfl) fun _ => Op.blind_ofRead _

/-- A game reported at its end is stored the same in both stores. -/
@[grind ←]
theorem blind_recordQuick (trackId : Int) (completed : Bool) (seconds moves : Int)
    (client : Client) (now : Instant) :
    Blind (recordQuick trackId completed seconds moves client now) := by
  have hquery : Blind (Op.query (Database.freeSessionId quickId now.toMillis)) :=
    Op.blind_query fun _ => rfl
  simp only [recordQuick]
  grind

/-- Running a program reads a track and nothing else. -/
@[grind ←]
theorem blind_runProgram (trackId : Int) (moves : List Move) :
    Blind (runProgram trackId moves) := by
  simp only [runProgram]
  grind

@[grind ←]
theorem blind_totals : Blind totals := Op.blind_query fun _ => rfl

end Games

/-! ## Logins -/

namespace Logins

/-- A login is closed by its token. -/
@[grind ←]
theorem blind_close (token : String) : Blind (close token) :=
  blind_bind (Op.blind_deleteLogins _) fun _ => blind_pure _

/-- Expired logins are removed by their own columns. -/
@[grind ←]
theorem blind_purge (now : Instant) : Blind (purge now) := Op.blind_deleteLogins _

/-- Whom a token belongs to is told by columns other than the hash. -/
@[grind ←]
theorem blind_resolve (token : String) (now : Instant) : Blind (resolve token now) := by
  have hquery : Blind (Op.queryRead (Database.principalOf token)) :=
    Op.blind_queryRead fun db => db.principalOf_withoutHashes token
  simp only [resolve]
  grind

/-- Logging out closes the login and leaves an entry, the same in both stores. -/
@[grind ←]
theorem blind_logOut (token : String) (actor : Actor) (now : Instant) :
    Blind (logOut token actor now) := by
  simp only [logOut]
  grind

end Logins

/-! ## Reports -/

namespace Reports

variable (now : Instant)

/-- Of users the dashboard counts those that are active. -/
@[grind ←]
theorem blind_dashboard : Blind (dashboard now) := by
  refine Op.blind_query fun db => ?_
  simp only [db.countActiveUsers_withoutHashes]
  rfl

@[grind ←]
theorem blind_days (count : UInt32) : Blind (days count now) := Op.blind_query fun _ => rfl

@[grind ←]
theorem blind_tracks : Blind (tracks now) := Op.blind_query fun _ => rfl

@[grind ←]
theorem blind_devices : Blind (devices now) := Op.blind_query fun _ => rfl

@[grind ←]
theorem blind_times : Blind (times now) := Op.blind_query fun _ => rfl

@[grind ←]
theorem blind_errors : Blind (errors now) := Op.blind_query fun _ => rfl

@[grind ←]
theorem blind_userActions : Blind (userActions now) := Op.blind_query fun _ => rfl

@[grind ←]
theorem blind_overview : Blind (overview now) := Op.blind_query fun _ => rfl

/-- All figures on one page are the same in both stores. -/
@[grind ←]
theorem blind_report : Blind (report now) := by
  simp only [report]
  refine blind_bind (blind_dashboard now) fun _ => blind_bind (blind_days now _) fun _ => ?_
  grind

@[grind ←]
theorem blind_players : Blind (players now) := Op.blind_query fun _ => rfl

/-- Figures of the audit log are the same in both stores. -/
@[grind ←]
theorem blind_audit : Blind (audit now) := by
  have hspan : ∀ since upTo, Blind (AuditLog.countBetween since upTo) :=
    fun _ _ => Op.blind_query fun _ => rfl
  have husers : ∀ since, Blind (AuditLog.usersSince since) := fun _ => Op.blind_query fun _ => rfl
  have hcount : Blind AuditLog.count := Op.blind_query fun _ => rfl
  simp only [audit]
  grind

/-- Of users the figures about games count those that are active. -/
@[grind ←]
theorem blind_complete (count : UInt32) : Blind (complete count now) := by
  refine Op.blind_query fun db => ?_
  simp only [db.countActiveUsers_withoutHashes]
  rfl

/-- The activity of the last days is the same in both stores. -/
@[grind ←]
theorem blind_activity (count : UInt32) : Blind (activity count now) :=
  Op.blind_query fun _ => rfl

end Reports

end RobotMaze
