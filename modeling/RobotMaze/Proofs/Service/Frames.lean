import RobotMaze.Proofs.Service.Calls
import RobotMaze.Proofs.Store.Changes

/-! # Frames of the service — what a call leaves alone

    A service for one thing does not touch the tables of the others:

    * `Tracks.Call.keeps` — tracks and the audit log are all that it writes to;
    * `Users.Call.keeps`, `Logins.Call.keeps` — users, logins and the audit log;
    * `Games.Call.keeps` — game sessions only;
    * `AuditLog.Call.keeps` — the audit log only; `Reports.Call.keeps` — nothing;
    * `Call.keeps_of_record` — so of the audit log a call leaves alone what its
      records leave alone;
    * `Call.keeps_tracks`, `Call.keeps_sessions` — and a table that only one service
      writes to is left alone by the calls of all others. -/

namespace RobotMaze

open Time (Instant)

variable {γ : Type} {view : Store → γ} {now : Instant}

/-! ## The audit log -/

namespace AuditLog

/-- Recording an event writes to the log and to the trail. -/
@[grind ←]
theorem keeps_record (haudit : BesideAudit view) (e : AuditEvent) (now : Instant) :
    (record e now).Keeps view := by
  have htrail : ∀ entry, (Op.addToTrail entry).Keeps view :=
    fun entry => Op.keeps_addToTrail fun s => haudit.trail s _
  simp only [record]
  grind

/-- Noting an event does no more than recording it. -/
theorem keeps_note_of_record {e : AuditEvent} (hrecord : (record e now).Keeps view) :
    (note e now).Keeps view := by
  simp only [note]
  grind

/-- Noting an event writes to the log and to the trail at most. -/
@[grind ←]
theorem keeps_note (haudit : BesideAudit view) (e : AuditEvent) (now : Instant) :
    (note e now).Keeps view :=
  keeps_note_of_record (keeps_record haudit e now)

@[grind ←]
theorem keeps_readAll (rows : List AuditRow) : (readAll rows).Keeps view := by
  simp only [readAll]
  grind

/-- Listing entries changes nothing. -/
@[grind ←]
theorem keeps_list (f : Database.AuditFilter) : (list f).Keeps view := by
  simp only [list]
  grind

@[grind ←]
theorem keeps_recent (limit : UInt32) : (recent limit).Keeps view := by
  simp only [recent]
  grind

@[grind ←]
theorem keeps_latest : latest.Keeps view := by
  simp only [latest]
  grind

/-- Whether a call adds an entry. -/
def Call.isChange : Call → Bool
  | .record _ | .note _ => true
  | _ => false

/-- A call that adds no entry leaves the store as it is. -/
theorem Call.keeps_of_reading {c : Call} (h : c.isChange = false) : (c.op now).2.Keeps view := by
  cases c with
  | get id =>
      show (AuditLog.get id).Keeps view
      simp only [AuditLog.get]
      grind
  | page f p =>
      show (AuditLog.page f p).Keeps view
      simp only [AuditLog.page]
      grind
  | list f => exact keeps_list f
  | exportLines f =>
      show (AuditLog.exportLines f).Keeps view
      simp only [AuditLog.exportLines]
      grind
  | recent limit => exact keeps_recent limit
  | latest => exact keeps_latest
  | count => exact Op.keeps_query _
  | countBetween since upTo => exact Op.keeps_query fun db => (db.auditBetween since upTo).length
  | usersSince since => exact Op.keeps_query _
  | byDay since upTo => exact Op.keeps_query _
  | byUser since upTo => exact Op.keeps_query _
  | byResource since upTo limit => exact Op.keeps_query _
  | record _ | note _ => cases h

/-- All that a call of the audit log can do is to record an event. -/
theorem Call.keeps_of_record (hrecord : ∀ e, (AuditLog.record e now).Keeps view) (c : Call) :
    (c.op now).2.Keeps view := by
  cases c with
  | record e => exact hrecord e
  | note e => exact keeps_note_of_record (hrecord e)
  | _ => exact Call.keeps_of_reading rfl

/-- The audit log writes to nothing but itself. -/
theorem Call.keeps (haudit : BesideAudit view) (c : Call) : (c.op now).2.Keeps view :=
  c.keeps_of_record fun e => keeps_record haudit e now

end AuditLog

/-! ## Tracks -/

namespace Tracks

@[grind ←]
theorem keeps_readAll (rows : List TrackRow) : (readAll rows).Keeps view := by
  simp only [readAll]
  grind

@[grind ←]
theorem keeps_get (id : Int) : (get id).Keeps view := by
  simp only [get]
  grind

/-- Looking for an active track changes nothing. -/
@[grind ←]
theorem keeps_getActive (id : Int) : (getActive id).Keeps view := by
  simp only [getActive]
  grind

@[grind ←]
theorem keeps_all : all.Keeps view := by
  simp only [all]
  grind

@[grind ←]
theorem keeps_active : active.Keeps view := by
  simp only [active]
  grind

/-- Picking a track changes nothing. -/
@[grind ←]
theorem keeps_random (number : Nat) : (random number).Keeps view := by
  simp only [random, readChosen]
  grind

/-- Picking a track other than the last one changes nothing. -/
@[grind ←]
theorem keeps_pick (excluded : Option Int) (number : Nat) : (pick excluded number).Keeps view := by
  simp only [pick, randomExcept, readChosen]
  grind

@[grind ←]
theorem keeps_isNameAvailable (name : String) (except : Option Int) :
    (isNameAvailable name except).Keeps view := by
  simp only [isNameAvailable]
  grind

/-- Asking whether a name is taken changes nothing. -/
@[grind ←]
theorem keeps_requireName (name : String) (except : Option Int) (taken : Conflict) :
    (requireName name except taken).Keeps view := by
  simp only [requireName]
  grind

/-- Checking a change of a track changes nothing. -/
@[grind ←]
theorem keeps_checkChange (id : Int) (c : TrackChange) (current : Track) :
    (checkChange id c current).Keeps view := by
  simp only [checkChange]
  grind

/-- Storing a track writes to the tracks and to the log. -/
@[grind ←]
theorem keeps_store (htracks : BesideTracks view) (t : CheckedTrack) (actor : Actor)
    (now : Instant) : (store t actor now).Keeps view := by
  simp only [store]
  grind

/-- Whether a call may write to the table of tracks. -/
def Call.isChange : Call → Bool
  | .create _ _ | .update _ _ _ | .delete _ _ | .reactivate _ _ | .importOne _ _ => true
  | _ => false

/-- Whether a call is recorded although it changes nothing. -/
def Call.isExport : Call → Bool
  | .exportOne _ _ | .exportAll _ _ => true
  | _ => false

/-- A call that neither changes tracks nor hands them out leaves the store as it is. -/
theorem Call.keeps_of_silent {c : Call} (h : c.isChange = false) (hexport : c.isExport = false) :
    (c.op now).2.Keeps view := by
  cases c with
  | get id => exact keeps_get id
  | getActive id => exact keeps_getActive id
  | page p =>
      show (Tracks.page p).Keeps view
      simp only [Tracks.page]
      grind
  | all => exact keeps_all
  | active => exact keeps_active
  | pick excluded number => exact keeps_pick excluded number
  | search term =>
      show (Tracks.search term).Keeps view
      simp only [Tracks.search]
      grind
  | ofLevel level =>
      show (Tracks.ofLevel level).Keeps view
      simp only [Tracks.ofLevel]
      grind
  | isNameAvailable name except => exact keeps_isNameAvailable name except
  | countActive => exact Op.keeps_query _
  | count => exact Op.keeps_query _
  | levels =>
      show Tracks.levels.Keeps view
      simp only [Tracks.levels]
      grind
  | exportOne _ _ | exportAll _ _ => cases hexport
  | create _ _ | update _ _ _ | delete _ _ | reactivate _ _ | importOne _ _ => cases h

/-- A call that does not change tracks notes an event at most. -/
theorem Call.keeps_of_reading_of_note (hnote : ∀ e, (AuditLog.note e now).Keeps view) {c : Call}
    (h : c.isChange = false) : (c.op now).2.Keeps view := by
  cases c with
  | exportOne id actor =>
      show (Tracks.exportOne id actor now).Keeps view
      simp only [Tracks.exportOne]
      grind
  | exportAll activeOnly actor =>
      show (Tracks.exportAll activeOnly actor now).Keeps view
      simp only [Tracks.exportAll]
      grind
  | _ => exact Call.keeps_of_silent h rfl

/-- A call that does not change tracks writes to the audit log at most. -/
theorem Call.keeps_of_reading (haudit : BesideAudit view) {c : Call} (h : c.isChange = false) :
    (c.op now).2.Keeps view :=
  keeps_of_reading_of_note (fun e => AuditLog.keeps_note haudit e now) h

/-- The service for tracks writes to tracks and notes events. -/
theorem Call.keeps_of_note (htracks : BesideTracks view)
    (hnote : ∀ e, (AuditLog.note e now).Keeps view) (c : Call) : (c.op now).2.Keeps view := by
  cases c with
  | create input actor =>
      show (Tracks.create input actor now).Keeps view
      simp only [Tracks.create]
      grind
  | update id change actor =>
      show (Tracks.update id change actor now).Keeps view
      simp only [Tracks.update]
      grind
  | delete id actor =>
      show (Tracks.delete id actor now).Keeps view
      simp only [Tracks.delete]
      grind
  | reactivate id actor =>
      show (Tracks.reactivate id actor now).Keeps view
      simp only [Tracks.reactivate]
      grind
  | importOne doc actor =>
      show (Tracks.importOne doc actor now).Keeps view
      simp only [Tracks.importOne]
      grind
  | _ => exact Call.keeps_of_reading_of_note hnote rfl

/-- The service for tracks writes to tracks and to the audit log only. -/
theorem Call.keeps (htracks : BesideTracks view) (haudit : BesideAudit view) (c : Call) :
    (c.op now).2.Keeps view :=
  c.keeps_of_note htracks fun e => AuditLog.keeps_note haudit e now

end Tracks

/-! ## Users -/

namespace Users

@[grind ←]
theorem keeps_readAll (rows : List UserRow) : (readAll rows).Keeps view := by
  simp only [readAll]
  grind

@[grind ←]
theorem keeps_get (id : Int) : (get id).Keeps view := by
  simp only [get]
  grind

/-- Looking up an account by its name changes nothing. -/
@[grind ←]
theorem keeps_find (username : String) : (find username).Keeps view := by
  simp only [find]
  grind

@[grind ←]
theorem keeps_count : count.Keeps view := Op.keeps_query _

@[grind ←]
theorem keeps_isUsernameAvailable (username : String) (except : Option Int) :
    (isUsernameAvailable username except).Keeps view := by
  simp only [isUsernameAvailable]
  grind

@[grind ←]
theorem keeps_isEmailAvailable (email : String) (except : Option Int) :
    (isEmailAvailable email except).Keeps view := by
  simp only [isEmailAvailable]
  grind

/-- Asking whether a username is taken changes nothing. -/
@[grind ←]
theorem keeps_requireUsername (username : String) (except : Option Int) :
    (requireUsername username except).Keeps view := by
  simp only [requireUsername]
  grind

/-- Asking whether an address is taken changes nothing. -/
@[grind ←]
theorem keeps_requireEmail (email : String) (except : Option Int) :
    (requireEmail email except).Keeps view := by
  simp only [requireEmail]
  grind

/-- Hashing a password changes nothing. -/
@[grind ←]
theorem keeps_hash (hashing : Hashing) (password : String) :
    (hash hashing password).Keeps view := by
  simp only [hash]
  grind

/-- Checking a change of an account changes nothing. -/
@[grind ←]
theorem keeps_checkChange (id : Int) (c : UserChange) (hashing : Hashing) :
    (checkChange id c hashing).Keeps view := by
  have hpassword : (c.newPassword.mapM (hash hashing)).Keeps view :=
    Op.keeps_mapM fun password => keeps_hash hashing password
  simp only [checkChange]
  grind

/-- Ending the logins of an account writes to the logins only. -/
@[grind ←]
theorem keeps_endLogins (hlogins : BesideLogins view) (id : Int) : (endLogins id).Keeps view :=
  Op.keeps_deleteLogins hlogins _

/-- Creating an account writes to the users, and to what noting the event writes to. -/
theorem keeps_create_of_note (husers : BesideUsers view)
    (hnote : ∀ e, (AuditLog.note e now).Keeps view) (input : NewUser) (hashing : Hashing)
    (actor : Actor) : (create input hashing actor now).Keeps view := by
  simp only [create]
  grind

/-- Checking a password writes to the users at most, the time of the login. -/
@[grind ←]
theorem keeps_authenticate (husers : BesideUsers view) (username password : String)
    (now : Instant) : (authenticate username password now).Keeps view := by
  simp only [authenticate]
  grind

/-- Whether a call may write to the table of users or to the logins. -/
def Call.isChange : Call → Bool
  | .create _ _ _ | .update _ _ _ _ | .delete _ _ | .reactivate _ _ | .changePassword _ _ _ _
  | .authenticate _ _ | .ensureFirstAdmin _ _ | .endLogins _ => true
  | _ => false

/-- A call that changes neither users nor logins leaves the store as it is. -/
theorem Call.keeps_of_reading {c : Call} (h : c.isChange = false) : (c.op now).2.Keeps view := by
  cases c with
  | get id => exact keeps_get id
  | find username => exact keeps_find username
  | search term =>
      show (Users.search term).Keeps view
      simp only [Users.search]
      grind
  | page f p =>
      show (Users.page f p).Keeps view
      simp only [Users.page]
      grind
  | roles =>
      show Users.roles.Keeps view
      simp only [Users.roles]
      grind
  | count => exact keeps_count
  | countActive => exact Op.keeps_query _
  | isUsernameAvailable username except => exact keeps_isUsernameAvailable username except
  | isEmailAvailable email except => exact keeps_isEmailAvailable email except
  | create _ _ _ | update _ _ _ _ | delete _ _ | reactivate _ _ | changePassword _ _ _ _
  | authenticate _ _ | ensureFirstAdmin _ _ | endLogins _ => cases h

/-- The service for users writes to users and logins and notes events. -/
theorem Call.keeps_of_note (husers : BesideUsers view) (hlogins : BesideLogins view)
    (hnote : ∀ e, (AuditLog.note e now).Keeps view) (c : Call) : (c.op now).2.Keeps view := by
  have hcreate := keeps_create_of_note husers hnote
  cases c with
  | create input hashing actor => exact hcreate input hashing actor
  | update id change hashing actor =>
      show (Users.update id change hashing actor now).Keeps view
      simp only [Users.update]
      grind
  | delete id actor =>
      show (Users.delete id actor now).Keeps view
      simp only [Users.delete]
      grind
  | reactivate id actor =>
      show (Users.reactivate id actor now).Keeps view
      simp only [Users.reactivate]
      grind
  | changePassword id password hashing actor =>
      show (Users.changePassword id password hashing actor now).Keeps view
      simp only [Users.changePassword]
      grind
  | authenticate username password => exact keeps_authenticate husers username password now
  | ensureFirstAdmin config hashing =>
      show (Users.ensureFirstAdmin config hashing now).Keeps view
      simp only [Users.ensureFirstAdmin]
      grind
  | endLogins id => exact keeps_endLogins hlogins id
  | _ => exact Call.keeps_of_reading rfl

/-- The service for users writes to users, logins and the audit log only. -/
theorem Call.keeps (husers : BesideUsers view) (hlogins : BesideLogins view)
    (haudit : BesideAudit view) (c : Call) : (c.op now).2.Keeps view :=
  c.keeps_of_note husers hlogins fun e => AuditLog.keeps_note haudit e now

end Users

/-! ## Logins -/

namespace Logins

/-- Opening a login writes to the logins only. -/
@[grind ←]
theorem keeps_openFor (hlogins : BesideLogins view) (u : User) (token : String) (seconds : Int)
    (actor : Actor) (now : Instant) : (openFor u token seconds actor now).Keeps view := by
  simp only [openFor]
  grind

/-- Closing a login writes to the logins only. -/
@[grind ←]
theorem keeps_close (hlogins : BesideLogins view) (token : String) : (close token).Keeps view := by
  have hdelete := Op.keeps_deleteLogins hlogins fun r => r.token == token
  simp only [close]
  grind

/-- Resolving a token writes to the logins at most, where it drops an expired one. -/
@[grind ←]
theorem keeps_resolve (hlogins : BesideLogins view) (token : String) (now : Instant) :
    (resolve token now).Keeps view := by
  simp only [resolve]
  grind

/-- Removing expired logins writes to the logins only. -/
theorem keeps_purge (hlogins : BesideLogins view) (now : Instant) : (purge now).Keeps view :=
  Op.keeps_deleteLogins hlogins _

/-- Logging out writes to the logins, and to what noting the event writes to. -/
theorem keeps_logOut_of_note (hlogins : BesideLogins view)
    (hnote : ∀ e, (AuditLog.note e now).Keeps view) (token : String) (actor : Actor) :
    (logOut token actor now).Keeps view := by
  simp only [logOut]
  grind

/-- Logging out writes to the logins and to the log. -/
theorem keeps_logOut (hlogins : BesideLogins view) (haudit : BesideAudit view) (token : String)
    (actor : Actor) (now : Instant) : (logOut token actor now).Keeps view :=
  keeps_logOut_of_note hlogins (fun e => AuditLog.keeps_note haudit e now) token actor

/-- The service for logins writes to users and logins and notes events. -/
theorem Call.keeps_of_note (husers : BesideUsers view) (hlogins : BesideLogins view)
    (hnote : ∀ e, (AuditLog.note e now).Keeps view) (c : Call) : (c.op now).2.Keeps view := by
  cases c with
  | openFor u token seconds actor => exact keeps_openFor hlogins u token seconds actor now
  | close token => exact keeps_close hlogins token
  | resolve token => exact keeps_resolve hlogins token now
  | purge => exact keeps_purge hlogins now
  | logIn username password token seconds actor =>
      show (Logins.logIn username password token seconds actor now).Keeps view
      simp only [Logins.logIn]
      grind
  | logOut token actor => exact keeps_logOut_of_note hlogins hnote token actor

/-- The service for logins writes to users, logins and the audit log only. -/
theorem Call.keeps (husers : BesideUsers view) (hlogins : BesideLogins view)
    (haudit : BesideAudit view) (c : Call) : (c.op now).2.Keeps view :=
  c.keeps_of_note husers hlogins fun e => AuditLog.keeps_note haudit e now

end Logins

/-! ## Games -/

namespace Games

@[grind ←]
theorem keeps_readAll (rows : List SessionRow) : (readAll rows).Keeps view := by
  simp only [readAll]
  grind

/-- Storing a session writes to the sessions only. -/
@[grind ←]
theorem keeps_store (hsessions : BesideSessions view) (s : GameSession) : (store s).Keeps view := by
  simp only [store]
  grind

/-- Reading the grid of a track changes nothing. -/
@[grind ←]
theorem keeps_cellsOf (t : Track) : (cellsOf t).Keeps view := by
  simp only [cellsOf]
  grind

@[grind ←]
theorem keeps_get (sessionId : String) : (get sessionId).Keeps view := by
  simp only [get]
  grind

/-- Running a program changes nothing: no session is kept of it. -/
@[grind ←]
theorem keeps_runProgram (trackId : Int) (moves : List Move) :
    (runProgram trackId moves).Keeps view := by
  simp only [runProgram]
  grind

/-- Starting a game writes to the sessions only. -/
@[grind ←]
theorem keeps_start (hsessions : BesideSessions view) (trackId : Int) (sessionId : String)
    (client : Client) (now : Instant) : (start trackId sessionId client now).Keeps view := by
  simp only [start]
  grind

/-- Reporting progress writes to the sessions only. -/
@[grind ←]
theorem keeps_update (hsessions : BesideSessions view) (sessionId : String)
    (report : ProgressReport) (now : Instant) : (update sessionId report now).Keeps view := by
  simp only [update]
  grind

/-- Storing a game reported at its end writes to the sessions only. -/
@[grind ←]
theorem keeps_recordQuick (hsessions : BesideSessions view) (trackId : Int) (completed : Bool)
    (seconds moves : Int) (client : Client) (now : Instant) :
    (recordQuick trackId completed seconds moves client now).Keeps view := by
  simp only [recordQuick]
  grind

/-- Whether a call may write to the table of game sessions. -/
def Call.isChange : Call → Bool
  | .start _ _ _ | .update _ _ _ | .recordQuick _ _ _ _ _ => true
  | _ => false

/-- A call that does not change game sessions leaves the store as it is. -/
theorem Call.keeps_of_reading {c : Call} (h : c.isChange = false) : (c.op now).2.Keeps view := by
  cases c with
  | get sessionId => exact keeps_get sessionId
  | page f p =>
      show (Games.page f p).Keeps view
      simp only [Games.page]
      grind
  | recent limit =>
      show (Games.recent limit).Keeps view
      simp only [Games.recent]
      grind
  | runProgram trackId moves => exact keeps_runProgram trackId moves
  | totals =>
      show Games.totals.Keeps view
      simp only [Games.totals]
      grind
  | start _ _ _ | update _ _ _ | recordQuick _ _ _ _ _ => cases h

/-- The service for games writes to game sessions only. -/
theorem Call.keeps (hsessions : BesideSessions view) (c : Call) : (c.op now).2.Keeps view := by
  cases c with
  | start trackId sessionId client => exact keeps_start hsessions trackId sessionId client now
  | update sessionId report position => exact keeps_update hsessions sessionId report now
  | recordQuick trackId completed seconds moves client =>
      exact keeps_recordQuick hsessions trackId completed seconds moves client now
  | _ => exact Call.keeps_of_reading rfl

end Games

/-! ## Reports -/

/-- Reports leave the store as it is. -/
theorem Reports.Call.keeps (c : Reports.Call) : (c.op now).2.Keeps view := by
  cases c with
  | report =>
      show (Reports.report now).Keeps view
      simp only [Reports.report]
      -- one question to the store for each of its parts
      iterate 8 refine Op.keeps_bind (Op.keeps_query _) fun _ => ?_
      exact Op.keeps_pure _
  | audit =>
      show (Reports.audit now).Keeps view
      simp only [Reports.audit, AuditLog.countBetween, AuditLog.usersSince, AuditLog.count]
      grind
  | _ => exact .step (fun _ => rfl) fun _ => .done _

/-! ## All services -/

/-- What looks at the audit log only is left alone by every call, if it is left alone by what a call
    records. -/
theorem Call.keeps_of_record (htracks : BesideTracks view) (husers : BesideUsers view)
    (hlogins : BesideLogins view) (hsessions : BesideSessions view)
    (hrecord : ∀ e, (AuditLog.record e now).Keeps view) (c : Call) : (c.op now).2.Keeps view := by
  have hnote : ∀ e, (AuditLog.note e now).Keeps view := fun e =>
    AuditLog.keeps_note_of_record (hrecord e)
  cases c with
  | tracks c => exact c.keeps_of_note htracks hnote
  | users c => exact c.keeps_of_note husers hlogins hnote
  | logins c => exact c.keeps_of_note husers hlogins hnote
  | audit c => exact c.keeps_of_record hrecord
  | games c => exact c.keeps hsessions
  | reports c => exact c.keeps

/-! ## The tables of single services -/

/-- Only the service for tracks writes to the table of tracks. -/
theorem Call.keeps_tracks {c : Call} (h : ∀ d, c ≠ .tracks d) :
    (c.op now).2.Keeps fun s => s.database.tracks := by
  have haudit : BesideAudit fun s : Store => s.database.tracks := ⟨fun _ _ => rfl, fun _ _ => rfl⟩
  cases c with
  | tracks c => exact absurd rfl (h c)
  | users c => exact c.keeps (fun _ _ => rfl) (fun _ _ => rfl) haudit
  | logins c => exact c.keeps (fun _ _ => rfl) (fun _ _ => rfl) haudit
  | audit c => exact c.keeps haudit
  | games c => exact c.keeps fun _ _ => rfl
  | reports c => exact c.keeps

/-- Only the service for games writes to the table of sessions. -/
theorem Call.keeps_sessions {c : Call} (h : ∀ d, c ≠ .games d) :
    (c.op now).2.Keeps fun s => s.database.sessions := by
  have haudit : BesideAudit fun s : Store => s.database.sessions :=
    ⟨fun _ _ => rfl, fun _ _ => rfl⟩
  cases c with
  | games c => exact absurd rfl (h c)
  | tracks c => exact c.keeps (fun _ _ => rfl) haudit
  | users c => exact c.keeps (fun _ _ => rfl) (fun _ _ => rfl) haudit
  | logins c => exact c.keeps (fun _ _ => rfl) (fun _ _ => rfl) haudit
  | audit c => exact c.keeps haudit
  | reports c => exact c.keeps

end RobotMaze
