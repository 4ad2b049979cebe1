import RobotMaze.Proofs.Store.Rows
import RobotMaze.Service.Logins
import RobotMaze.Service.Reports

/-! # Calls — runs of the service

    A run is a list of calls, one after another and each with the clock reading
    at which it is made.  Every operation of the service can be called, with any
    arguments; a call that fails is part of the run as well.

    * `Tracks.Call`, `Users.Call`, `Logins.Call`, `AuditLog.Call`, `Games.Call`,
      `Reports.Call` — the calls of each service, and `Call` all of them;
    * `Store.after` — the store that a run leaves behind;
    * `Store.after_invariant` — what every call keeps holds after every run. -/

namespace RobotMaze

open Time (Instant)

/-- An operation with any kind of answer. -/
abbrev AnyOp := (α : Type) × Op α

/-- A call of the service for tracks. -/
inductive Tracks.Call where
  | get (id : Int)
  | getActive (id : Int)
  | page (p : PageRequest)
  | all
  | active
  | pick (excluded : Option Int) (number : Nat)
  | search (term : String)
  | ofLevel (level : Int)
  | isNameAvailable (name : String) (except : Option Int)
  | countActive
  | count
  | levels
  | create (input : NewTrack) (actor : Actor)
  | update (id : Int) (change : TrackChange) (actor : Actor)
  | delete (id : Int) (actor : Actor)
  | reactivate (id : Int) (actor : Actor)
  | exportOne (id : Int) (actor : Actor)
  | exportAll (activeOnly : Bool) (actor : Actor)
  | importOne (doc : TrackDocument) (actor : Actor)

/-- The operation that a call of the service for tracks stands for. -/
def Tracks.Call.op (now : Instant) : Tracks.Call → AnyOp
  | .get id => ⟨_, Tracks.get id⟩
  | .getActive id => ⟨_, Tracks.getActive id⟩
  | .page p => ⟨_, Tracks.page p⟩
  | .all => ⟨_, Tracks.all⟩
  | .active => ⟨_, Tracks.active⟩
  | .pick excluded number => ⟨_, Tracks.pick excluded number⟩
  | .search term => ⟨_, Tracks.search term⟩
  | .ofLevel level => ⟨_, Tracks.ofLevel level⟩
  | .isNameAvailable name except => ⟨_, Tracks.isNameAvailable name except⟩
  | .countActive => ⟨_, Tracks.countActive⟩
  | .count => ⟨_, Tracks.count⟩
  | .levels => ⟨_, Tracks.levels⟩
  | .create input actor => ⟨_, Tracks.create input actor now⟩
  | .update id change actor => ⟨_, Tracks.update id change actor now⟩
  | .delete id actor => ⟨_, Tracks.delete id actor now⟩
  | .reactivate id actor => ⟨_, Tracks.reactivate id actor now⟩
  | .exportOne id actor => ⟨_, Tracks.exportOne id actor now⟩
  | .exportAll activeOnly actor => ⟨_, Tracks.exportAll activeOnly actor now⟩
  | .importOne doc actor => ⟨_, Tracks.importOne doc actor now⟩

/-- A call of the service for users. -/
inductive Users.Call where
  | get (id : Int)
  | find (username : String)
  | search (term : String)
  | page (f : Database.UserFilter) (p : PageRequest)
  | roles
  | count
  | countActive
  | isUsernameAvailable (username : String) (except : Option Int)
  | isEmailAvailable (email : String) (except : Option Int)
  | create (input : NewUser) (hashing : Hashing) (actor : Actor)
  | update (id : Int) (change : UserChange) (hashing : Hashing) (actor : Actor)
  | delete (id : Int) (actor : Actor)
  | reactivate (id : Int) (actor : Actor)
  | changePassword (id : Int) (password : String) (hashing : Hashing) (actor : Actor)
  | authenticate (username password : String)
  | ensureFirstAdmin (config : FirstAdmin) (hashing : Hashing)
  | endLogins (id : Int)

/-- The operation that a call of the service for users stands for. -/
def Users.Call.op (now : Instant) : Users.Call → AnyOp
  | .get id => ⟨_, Users.get id⟩
  | .find username => ⟨_, Users.find username⟩
  | .search term => ⟨_, Users.search term⟩
  | .page f p => ⟨_, Users.page f p⟩
  | .roles => ⟨_, Users.roles⟩
  | .count => ⟨_, Users.count⟩
  | .countActive => ⟨_, Users.countActive⟩
  | .isUsernameAvailable username except => ⟨_, Users.isUsernameAvailable username except⟩
  | .isEmailAvailable email except => ⟨_, Users.isEmailAvailable email except⟩
  | .create input hashing actor => ⟨_, Users.create input hashing actor now⟩
  | .update id change hashing actor => ⟨_, Users.update id change hashing actor now⟩
  | .delete id actor => ⟨_, Users.delete id actor now⟩
  | .reactivate id actor => ⟨_, Users.reactivate id actor now⟩
  | .changePassword id password hashing actor =>
      ⟨_, Users.changePassword id password hashing actor now⟩
  | .authenticate username password => ⟨_, Users.authenticate username password now⟩
  | .ensureFirstAdmin config hashing => ⟨_, Users.ensureFirstAdmin config hashing now⟩
  | .endLogins id => ⟨_, Users.endLogins id⟩

/-- A call of the service for logins. -/
inductive Logins.Call where
  | openFor (u : User) (token : String) (seconds : Int) (actor : Actor)
  | close (token : String)
  | resolve (token : String)
  | purge
  | logIn (username password token : String) (seconds : Int) (actor : Actor)
  | logOut (token : String) (actor : Actor)

/-- The operation that a call of the service for logins stands for. -/
def Logins.Call.op (now : Instant) : Logins.Call → AnyOp
  | .openFor u token seconds actor => ⟨_, Logins.openFor u token seconds actor now⟩
  | .close token => ⟨_, Logins.close token⟩
  | .resolve token => ⟨_, Logins.resolve token now⟩
  | .purge => ⟨_, Logins.purge now⟩
  | .logIn username password token seconds actor =>
      ⟨_, Logins.logIn username password token seconds actor now⟩
  | .logOut token actor => ⟨_, Logins.logOut token actor now⟩

/-- A call of the audit log. -/
inductive AuditLog.Call where
  | record (e : AuditEvent)
  | note (e : AuditEvent)
  | get (id : Int)
  | page (f : Database.AuditFilter) (p : PageRequest)
  | list (f : Database.AuditFilter)
  | exportLines (f : Database.AuditFilter)
  | recent (limit : UInt32)
  | latest
  | count
  | countBetween (since upTo : Instant)
  | usersSince (since : Instant)
  | byDay (since upTo : Instant)
  | byUser (since upTo : Instant)
  | byResource (since upTo : Instant) (limit : UInt32)

/-- The operation that a call of the audit log stands for. -/
def AuditLog.Call.op (now : Instant) : AuditLog.Call → AnyOp
  | .record e => ⟨_, AuditLog.record e now⟩
  | .note e => ⟨_, AuditLog.note e now⟩
  | .get id => ⟨_, AuditLog.get id⟩
  | .page f p => ⟨_, AuditLog.page f p⟩
  | .list f => ⟨_, AuditLog.list f⟩
  | .exportLines f => ⟨_, AuditLog.exportLines f⟩
  | .recent limit => ⟨_, AuditLog.recent limit⟩
  | .latest => ⟨_, AuditLog.latest⟩
  | .count => ⟨_, AuditLog.count⟩
  | .countBetween since upTo => ⟨_, AuditLog.countBetween since upTo⟩
  | .usersSince since => ⟨_, AuditLog.usersSince since⟩
  | .byDay since upTo => ⟨_, AuditLog.byDay since upTo⟩
  | .byUser since upTo => ⟨_, AuditLog.byUser since upTo⟩
  | .byResource since upTo limit => ⟨_, AuditLog.byResource since upTo limit⟩

/-- The position in a report is one of numbers of 32 bits, which is all that its decoder lets
    through. -/
def ProgressReport.HasInt32Position (r : ProgressReport) : Prop :=
  (∀ x ∈ r.errorX, IsInt32 x) ∧ ∀ y ∈ r.errorY, IsInt32 y

/-- A call of the service for games. -/
inductive Games.Call where
  | start (trackId : Int) (sessionId : String) (client : Games.Client)
  | get (sessionId : String)
  | update (sessionId : String) (report : ProgressReport) (position : report.HasInt32Position)
  | page (f : Database.SessionFilter) (p : PageRequest)
  | recent (limit : UInt32)
  | recordQuick (trackId : Int) (completed : Bool) (seconds moves : Int) (client : Games.Client)
  | runProgram (trackId : Int) (moves : List Move)
  | totals

/-- The operation that a call of the service for games stands for. -/
def Games.Call.op (now : Instant) : Games.Call → AnyOp
  | .start trackId sessionId client => ⟨_, Games.start trackId sessionId client now⟩
  | .get sessionId => ⟨_, Games.get sessionId⟩
  | .update sessionId report _ => ⟨_, Games.update sessionId report now⟩
  | .page f p => ⟨_, Games.page f p⟩
  | .recent limit => ⟨_, Games.recent limit⟩
  | .recordQuick trackId completed seconds moves client =>
      ⟨_, Games.recordQuick trackId completed seconds moves client now⟩
  | .runProgram trackId moves => ⟨_, Games.runProgram trackId moves⟩
  | .totals => ⟨_, Games.totals⟩

/-- A call for a report. -/
inductive Reports.Call where
  | dashboard
  | days (count : UInt32)
  | tracks
  | devices
  | times
  | errors
  | userActions
  | overview
  | report
  | players
  | audit
  | complete (count : UInt32)
  | activity (count : UInt32)

/-- The operation that a call for a report stands for. -/
def Reports.Call.op (now : Instant) : Reports.Call → AnyOp
  | .dashboard => ⟨_, Reports.dashboard now⟩
  | .days count => ⟨_, Reports.days count now⟩
  | .tracks => ⟨_, Reports.tracks now⟩
  | .devices => ⟨_, Reports.devices now⟩
  | .times => ⟨_, Reports.times now⟩
  | .errors => ⟨_, Reports.errors now⟩
  | .userActions => ⟨_, Reports.userActions now⟩
  | .overview => ⟨_, Reports.overview now⟩
  | .report => ⟨_, Reports.report now⟩
  | .players => ⟨_, Reports.players now⟩
  | .audit => ⟨_, Reports.audit now⟩
  | .complete count => ⟨_, Reports.complete count now⟩
  | .activity count => ⟨_, Reports.activity count now⟩

/-- A call of the service. -/
inductive Call where
  | tracks (c : Tracks.Call)
  | users (c : Users.Call)
  | logins (c : Logins.Call)
  | audit (c : AuditLog.Call)
  | games (c : Games.Call)
  | reports (c : Reports.Call)

/-- The operation that a call stands for. -/
def Call.op (now : Instant) : Call → AnyOp
  | .tracks c => c.op now
  | .users c => c.op now
  | .logins c => c.op now
  | .audit c => c.op now
  | .games c => c.op now
  | .reports c => c.op now

/-- A call and the clock reading at which it is made. -/
structure Event where
  now : Instant
  call : Call

namespace Store

/-- A store without rows, with any audit trail. -/
def empty (trail : Trail) : Store := { trail }

/-- The store after a call. -/
def next (s : Store) (e : Event) : Store := ((e.call.op e.now).2.run s).2

/-- The store after a run. -/
def after (s : Store) (run : List Event) : Store := run.foldl next s

theorem after_append (s : Store) (early late : List Event) :
    s.after (early ++ late) = (s.after early).after late := List.foldl_append

/-- What every call keeps holds after every run. -/
theorem after_invariant {P : Store → Prop} {run : List Event}
    (hnext : ∀ e ∈ run, ∀ s, P s → P (s.next e)) {s : Store} (hs : P s) : P (s.after run) := by
  induction run generalizing s with
  | nil => exact hs
  | cons e rest ih =>
      show P ((s.next e).after rest)
      exact ih (fun f hf => hnext f (List.mem_cons_of_mem e hf))
        (hnext e (List.mem_cons_self) s hs)

end Store

end RobotMaze
