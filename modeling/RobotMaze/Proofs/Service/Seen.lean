import RobotMaze.Proofs.Session.Plain

/-! # What can be seen of a store

    A store is seen through the calls that only read.  None of them tells an empty
    text of a session from a missing one:

    * `Call.isReading` — the calls that only read;
    * `Store.SeenAs` — they answer the same in two stores;
    * `Call.seesPlain` — their answers do not change when empty texts are left out;
    * `Store.seenAs_of_plain_eq` — so stores that differ in such texts only are
      seen as the same. -/

namespace RobotMaze

open Time (Instant)

variable {now : Instant}

/-! ## The audit log -/

namespace AuditLog

@[grind ←]
theorem seesPlain_readAll (rows : List AuditRow) : (readAll rows).SeesPlain := Op.seesPlain_ofRead _

/-- A list of the audit log has nothing of sessions. -/
@[grind ←]
theorem seesPlain_list (f : Database.AuditFilter) : (list f).SeesPlain :=
  Op.seesPlain_bind (Op.seesPlain_query fun _ => rfl) seesPlain_readAll

@[grind ←]
theorem seesPlain_recent (limit : UInt32) : (recent limit).SeesPlain :=
  Op.seesPlain_bind (Op.seesPlain_query fun _ => rfl) seesPlain_readAll

@[grind ←]
theorem seesPlain_latest : latest.SeesPlain :=
  Op.seesPlain_bind (seesPlain_recent 1) fun _ => Op.seesPlain_pure _

/-- Entries are counted by user without the sessions. -/
@[grind ←]
theorem seesPlain_byUser (since upTo : Instant) : (byUser since upTo).SeesPlain :=
  Op.seesPlain_query fun _ => rfl

/-- Entries are counted between two times without the sessions. -/
theorem seesPlain_countBetween (since upTo : Instant) : (countBetween since upTo).SeesPlain :=
  Op.seesPlain_query fun _ => rfl

/-- The audit log is read without the sessions. -/
theorem Call.seesPlain {c : Call} (h : c.isChange = false) : (c.op now).2.SeesPlain := by
  cases c with
  | get id =>
      have hquery : (Op.query (Database.auditById id)).SeesPlain := Op.seesPlain_query fun _ => rfl
      show (AuditLog.get id).SeesPlain
      simp only [AuditLog.get]
      grind
  | page f p =>
      have hcount : (Op.query fun db => (db.auditAccepted f).length).SeesPlain :=
        Op.seesPlain_query fun _ => rfl
      have hrows : (Op.queryRead (Database.pageOfAudit f p)).SeesPlain :=
        Op.seesPlain_queryRead fun _ => rfl
      show (AuditLog.page f p).SeesPlain
      simp only [AuditLog.page]
      grind
  | list f => exact seesPlain_list f
  | exportLines f => exact Op.seesPlain_bind (seesPlain_list f) fun _ => Op.seesPlain_pure _
  | recent limit => exact seesPlain_recent limit
  | latest => exact seesPlain_latest
  | byUser since upTo => exact seesPlain_byUser since upTo
  | countBetween since upTo => exact seesPlain_countBetween since upTo
  | count | usersSince _ | byDay _ _ | byResource _ _ _ => exact Op.seesPlain_query fun _ => rfl
  | record _ | note _ => cases h

end AuditLog

/-! ## Tracks -/

namespace Tracks

@[grind ←]
theorem seesPlain_readAll (rows : List TrackRow) : (readAll rows).SeesPlain := Op.seesPlain_ofRead _

@[grind ←]
theorem seesPlain_readChosen (row : Option TrackRow) : (readChosen row).SeesPlain :=
  Op.seesPlain_ofRead _

@[grind ←]
theorem seesPlain_get (id : Int) : (get id).SeesPlain := by
  have hquery : (Op.query (Database.trackById id)).SeesPlain := Op.seesPlain_query fun _ => rfl
  simp only [get]
  grind

/-- A track is looked for without the sessions. -/
@[grind ←]
theorem seesPlain_getActive (id : Int) : (getActive id).SeesPlain := by
  simp only [getActive]
  grind

/-- A track is picked without the sessions. -/
@[grind ←]
theorem seesPlain_random (number : Nat) : (random number).SeesPlain :=
  Op.seesPlain_bind (Op.seesPlain_query fun _ => rfl) seesPlain_readChosen

/-- A track other than the last one is picked without the sessions. -/
theorem seesPlain_pick (excluded : Option Int) (number : Nat) :
    (pick excluded number).SeesPlain := by
  cases excluded with
  | none => exact seesPlain_random number
  | some id =>
      have hquery : (Op.query fun db => choose number (db.activeTracksExcept id)).SeesPlain :=
        Op.seesPlain_query fun _ => rfl
      simp only [pick, randomExcept]
      grind

/-- The tracks are read without the sessions. -/
theorem Call.seesPlain {c : Call} (h : c.isChange = false) (hexport : c.isExport = false) :
    (c.op now).2.SeesPlain := by
  cases c with
  | get id => exact seesPlain_get id
  | getActive id => exact seesPlain_getActive id
  | page p =>
      have hcount : (Op.query Database.countTracks).SeesPlain := Op.seesPlain_query fun _ => rfl
      have hrows : (Op.queryRead (Database.pageOfTracks p)).SeesPlain :=
        Op.seesPlain_queryRead fun _ => rfl
      show (Tracks.page p).SeesPlain
      simp only [Tracks.page]
      grind
  | all | active | search _ | ofLevel _ =>
      exact Op.seesPlain_bind (Op.seesPlain_query fun _ => rfl) seesPlain_readAll
  | pick excluded number => exact seesPlain_pick excluded number
  | isNameAvailable _ _ | levels =>
      exact Op.seesPlain_bind (Op.seesPlain_query fun _ => rfl) fun _ => Op.seesPlain_pure _
  | countActive | count => exact Op.seesPlain_query fun _ => rfl
  | exportOne _ _ | exportAll _ _ => cases hexport
  | create _ _ | update _ _ _ | delete _ _ | reactivate _ _ | importOne _ _ => cases h

end Tracks

/-! ## Accounts -/

namespace Users

@[grind ←]
theorem seesPlain_readAll (rows : List UserRow) : (readAll rows).SeesPlain := Op.seesPlain_ofRead _

/-- The users are read without the sessions. -/
theorem Call.seesPlain {c : Call} (h : c.isChange = false) : (c.op now).2.SeesPlain := by
  cases c with
  | get id =>
      have hquery : (Op.query (Database.userById id)).SeesPlain := Op.seesPlain_query fun _ => rfl
      show (Users.get id).SeesPlain
      simp only [Users.get]
      grind
  | find username =>
      have hquery : (Op.query (Database.userByName username)).SeesPlain :=
        Op.seesPlain_query fun _ => rfl
      show (Users.find username).SeesPlain
      simp only [Users.find]
      grind
  | search _ => exact Op.seesPlain_bind (Op.seesPlain_query fun _ => rfl) seesPlain_readAll
  | page f p =>
      have hcount : (Op.query fun db => (db.usersAccepted f).length).SeesPlain :=
        Op.seesPlain_query fun _ => rfl
      have hrows : (Op.queryRead (Database.pageOfUsers f p)).SeesPlain :=
        Op.seesPlain_queryRead fun _ => rfl
      show (Users.page f p).SeesPlain
      simp only [Users.page]
      grind
  | isUsernameAvailable _ _ | isEmailAvailable _ _ =>
      exact Op.seesPlain_bind (Op.seesPlain_query fun _ => rfl) fun _ => Op.seesPlain_pure _
  | roles =>
      show Users.roles.SeesPlain
      exact Op.seesPlain_query fun _ => rfl
  | count | countActive => exact Op.seesPlain_query fun _ => rfl
  | create _ _ _ | update _ _ _ _ | delete _ _ | reactivate _ _ | changePassword _ _ _ _
  | authenticate _ _ | ensureFirstAdmin _ _ | endLogins _ => cases h

end Users

/-! ## Games and reports -/

/-- Sessions are read as their plain rows tell them. -/
theorem Games.Call.seesPlain {c : Games.Call} (h : c.isChange = false) :
    (c.op now).2.SeesPlain := by
  cases c with
  | get sessionId => exact seesPlain_get sessionId
  | page f p => exact seesPlain_page f p
  | recent limit => exact seesPlain_recent limit
  | runProgram trackId moves =>
      show (Games.runProgram trackId moves).SeesPlain
      simp only [Games.runProgram]
      grind
  | totals => exact seesPlain_totals
  | start _ _ _ | update _ _ _ | recordQuick _ _ _ _ _ => cases h

namespace Reports

/-- Figures of the audit log have nothing of sessions. -/
theorem seesPlain_report (now : Instant) : (report now).SeesPlain := by
  simp only [report]
  refine Op.seesPlain_bind (seesPlain_dashboard now) fun _ => ?_
  refine Op.seesPlain_bind (seesPlain_days _ now) fun _ => ?_
  refine Op.seesPlain_bind (seesPlain_tracks now) fun _ => ?_
  refine Op.seesPlain_bind (seesPlain_devices now) fun _ => ?_
  refine Op.seesPlain_bind (seesPlain_times now) fun _ => ?_
  refine Op.seesPlain_bind (seesPlain_errors now) fun _ => ?_
  refine Op.seesPlain_bind (AuditLog.seesPlain_byUser _ now) fun _ => ?_
  exact Op.seesPlain_bind (seesPlain_overview now) fun _ => Op.seesPlain_pure _

/-- Reports are made of plain rows. -/
theorem Call.seesPlain (c : Call) : (c.op now).2.SeesPlain := by
  cases c with
  | dashboard => exact seesPlain_dashboard now
  | days count => exact seesPlain_days count now
  | tracks => exact seesPlain_tracks now
  | devices => exact seesPlain_devices now
  | times => exact seesPlain_times now
  | errors => exact seesPlain_errors now
  | userActions => exact AuditLog.seesPlain_byUser _ now
  | overview => exact seesPlain_overview now
  | report => exact seesPlain_report now
  | players => exact seesPlain_players now
  | audit =>
      show (Reports.audit now).SeesPlain
      simp only [Reports.audit]
      refine Op.seesPlain_bind (AuditLog.seesPlain_countBetween _ now) fun _ => ?_
      refine Op.seesPlain_bind (Op.seesPlain_query fun _ => rfl) fun _ => ?_
      refine Op.seesPlain_bind (Op.seesPlain_query fun _ => rfl) fun _ => ?_
      exact Op.seesPlain_bind AuditLog.seesPlain_latest fun _ => Op.seesPlain_pure _
  | complete count => exact seesPlain_complete count now
  | activity count => exact seesPlain_activity count now

end Reports

/-! ## All calls -/

/-- Whether a call only reads. -/
def Call.isReading : Call → Bool
  | .tracks c => !c.isChange && !c.isExport
  | .users c => !c.isChange
  | .logins _ => false
  | .audit c => !c.isChange
  | .games c => !c.isChange
  | .reports _ => true

/-- All calls that only read answer the same in two stores. -/
def Store.SeenAs (s t : Store) : Prop :=
  ∀ e : Event, e.call.isReading = true → (e.call.op e.now).2.answer s = (e.call.op e.now).2.answer t

/-- A call that only reads sees plain rows only. -/
theorem Call.seesPlain {c : Call} (h : c.isReading = true) : (c.op now).2.SeesPlain := by
  cases c with
  | tracks c =>
      obtain ⟨hchange, hexport⟩ := Bool.and_eq_true_iff.mp h
      exact Tracks.Call.seesPlain (by simpa using hchange) (by simpa using hexport)
  | users c => exact Users.Call.seesPlain (by simpa [isReading] using h)
  | logins c => cases h
  | audit c => exact AuditLog.Call.seesPlain (by simpa [isReading] using h)
  | games c => exact Games.Call.seesPlain (by simpa [isReading] using h)
  | reports c => exact Reports.Call.seesPlain c

/-- Stores that are the same without empty texts are seen as the same. -/
theorem Store.seenAs_of_plain_eq {s t : Store} (h : s.plain = t.plain) : s.SeenAs t := by
  intro e hreading
  have hsees : (e.call.op e.now).2.SeesPlain := Call.seesPlain hreading
  rw [← hsees.answer_plain s, h, hsees.answer_plain]

end RobotMaze
