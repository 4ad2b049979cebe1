import RobotMaze.Proofs.Login.Recorded
import RobotMaze.Proofs.Session.Stored
import RobotMaze.Proofs.Track.Recorded
import RobotMaze.Proofs.User.Life

/-! # All or nothing

    What is stored can be read, so an operation that is to fail does so before it
    writes:

    * `Op.AllOrNothing` — an operation that fails leaves the whole store as it was;
    * `Tracks.Call.allOrNothing`, `Users.Call.allOrNothing`, … — the calls of each
      service;
    * `Store.next_eq_of_error` — any call that logs nobody in, in any run.  One that
      logs somebody in may fail after it has written: a wrong password is noted,
      and a right one leaves its time behind even if no login can be opened. -/

namespace RobotMaze

open Time (Instant)

/-- An operation that fails leaves the whole store as it was. -/
def Op.AllOrNothing {α : Type} (op : Op α) (s : Store) : Prop :=
  op.Ends s fun r t => ∀ f, r = .error f → t = s

section Rules

variable {α : Type} {op : Op α} {s : Store} {now : Instant}

/-- What only reads has nothing to take back. -/
theorem Op.Reads.allOrNothing (h : op.Reads) : op.AllOrNothing s := fun _ _ => h.run s

/-- A change that is recorded is made as a whole or not at all. -/
theorem Recorded.allOrNothing {idle : α → Prop} {change : α → Int → Store → Prop} {actor : Actor}
    {resourceType : String} (h : op.Ends s (Recorded idle change actor resourceType now s)) :
    op.AllOrNothing s :=
  h.imp fun _ _ hrecorded _ => hrecorded.store_eq_of_error

/-- A call that only notes does so or changes nothing. -/
theorem Noting.allOrNothing (h : op.Ends s (Noting now s)) : op.AllOrNothing s :=
  h.imp fun _ _ hnoting _ => hnoting.store_eq_of_error

end Rules

variable {s : Store} {now : Instant}

/-- A call for tracks that fails changes nothing. -/
theorem Tracks.Call.allOrNothing (hs : Tracks.Stored s) (hnow : now.HasFourDigitYear)
    (c : Tracks.Call) : (c.op now).2.AllOrNothing s := by
  cases c with
  | create input actor => exact Recorded.allOrNothing (create_recorded hnow actor input)
  | update id c actor => exact Recorded.allOrNothing (update_recorded hnow actor hs id c)
  | delete id actor => exact Recorded.allOrNothing (delete_recorded hnow actor hs id)
  | reactivate id actor => exact Recorded.allOrNothing (reactivate_recorded hnow actor hs id)
  | importOne doc actor => exact Recorded.allOrNothing (importOne_recorded hnow actor doc)
  | exportOne id actor => exact Noting.allOrNothing (exportOne_noting id actor now s)
  | exportAll activeOnly actor =>
      exact Noting.allOrNothing (exportAll_noting activeOnly actor now s)
  | _ => exact Op.Reads.allOrNothing (keeps_of_silent rfl rfl)

/-- A call for users that fails changes nothing. -/
theorem Users.Call.allOrNothing (hs : Users.Stored s) (hnow : now.HasFourDigitYear)
    (c : Users.Call) : (c.op now).2.AllOrNothing s := by
  cases c with
  | create input hashing actor =>
      exact Recorded.allOrNothing (create_recorded actor hnow input hashing)
  | ensureFirstAdmin config hashing =>
      exact Recorded.allOrNothing (ensureFirstAdmin_recorded hnow config hashing)
  | update id c hashing actor => exact Recorded.allOrNothing (update_recorded hs actor id c hashing)
  | delete id actor => exact Recorded.allOrNothing (delete_recorded hs actor id)
  | reactivate id actor => exact Recorded.allOrNothing (reactivate_recorded hs actor id)
  | changePassword id password hashing actor =>
      exact Recorded.allOrNothing (changePassword_recorded hs actor id password hashing)
  | authenticate username password =>
      refine (authenticate_entry hs username password now).imp fun r t hentry f hf => ?_
      cases hentry with
      | refused => rfl
      | admitted => cases hf
  | endLogins id => exact fun _ hf => nomatch hf
  | _ => exact Op.Reads.allOrNothing (keeps_of_reading rfl)

/-- A call for logins other than one that opens a login changes nothing if it fails. -/
theorem Logins.Call.allOrNothing (s : Store) (now : Instant) {c : Logins.Call}
    (hlogin : (Call.logins c).isLogin = false) : (c.op now).2.AllOrNothing s := by
  cases c with
  | openFor u token seconds actor =>
      exact Noting.allOrNothing (openFor_noting u token seconds actor now s)
  | close token =>
      refine (close_outcome token s).imp fun r t h f hf => ?_
      obtain ⟨⟨b, hb⟩, -⟩ := h
      cases hb.symm.trans hf
  | resolve token =>
      refine (resolve_outcome token now s).imp fun r t h f hf => ?_
      rcases h with ⟨-, -, hsame⟩ | ⟨principal, hok, -⟩
      · exact hsame
      · cases hok.symm.trans hf
  | purge => exact fun _ hf => nomatch hf
  | logOut token actor => exact Noting.allOrNothing (logOut_noting token actor now s)
  | logIn => cases hlogin

/-- A call for games that fails changes nothing. -/
theorem Games.Call.allOrNothing (hs : Games.Stored s) (hnow : now.InCommonEra) (c : Games.Call) :
    (c.op now).2.AllOrNothing s := by
  cases c with
  | start trackId sessionId client =>
      exact (start_settles hs hnow.hasFourDigitYear trackId sessionId client).1
  | update sessionId report position =>
      exact (update_settles hs hnow.hasFourDigitYear sessionId position).1
  | recordQuick trackId completed seconds moves client =>
      exact (recordQuick_settles hs hnow trackId completed seconds moves client).1
  | _ => exact Op.Reads.allOrNothing (keeps_of_reading rfl)

theorem AuditLog.Call.allOrNothing (s : Store) (now : Instant) (c : AuditLog.Call) :
    (c.op now).2.AllOrNothing s := by
  cases c with
  | record e => exact Noting.allOrNothing (record_noting e now s)
  | note e => exact Noting.allOrNothing (note_noting e now s)
  | _ => exact Op.Reads.allOrNothing (keeps_of_reading rfl)

/-- In any run a call that logs nobody in and fails leaves the whole store as it was: all tables
    and the audit trail. -/
theorem Store.next_eq_of_error (trail : Trail) {run : List Event} {e : Event} {f : Failure}
    (hclock : ∀ e' ∈ run ++ [e], e'.now.InCommonEra) (hlogin : e.call.isLogin = false)
    (hfailed : (e.call.op e.now).2.answer ((Store.empty trail).after run) = .error f) :
    ((Store.empty trail).after run).next e = (Store.empty trail).after run := by
  have hrun : ∀ e' ∈ run, e'.now.InCommonEra := fun e' he => hclock e' (List.mem_append_left _ he)
  have hyears : ∀ e' ∈ run, e'.now.HasFourDigitYear := fun e' he => (hrun e' he).hasFourDigitYear
  have hnow := hclock e (List.mem_append_right _ (List.mem_singleton_self e))
  have htracks := (Tracks.stored_empty trail).after hyears
  have husers := Users.stored_after trail hyears
  have hgames := Games.stored_after trail hrun
  have hall : (e.call.op e.now).2.AllOrNothing ((Store.empty trail).after run) := by
    obtain ⟨now, c⟩ := e
    cases c with
    | tracks c => exact c.allOrNothing htracks hnow.hasFourDigitYear
    | users c => exact c.allOrNothing husers hnow.hasFourDigitYear
    | logins c => exact Logins.Call.allOrNothing _ now hlogin
    | audit c => exact c.allOrNothing _ now
    | games c => exact c.allOrNothing hgames hnow
    | reports c => exact Op.Reads.allOrNothing c.keeps
  exact hall f hfailed

/-- A store with one track and one administrator. -/
def oneOfEach : List Event :=
  [⟨⟨1772366400, 0⟩,
    .tracks (.create ⟨"Corridor", Grid.corridor.render, 0, 0, .east, none, none⟩ .system)⟩,
    ⟨⟨1772366430, 0⟩, .users (.create
      ⟨"ada", "ada@maze.example", "countess", some "Ada", .admin, true⟩ ⟨4, [17]⟩ .system)⟩]

/-- The only administrator asks for another role and another password. -/
def abdication : Event :=
  ⟨⟨1772366460, 0⟩, .users (.update 1
    { role := some .superAdmin, password := some "analytical" } ⟨4, [18]⟩ (.user "ada"))⟩

/-- Neither the role nor the password is changed. -/
theorem next_eq_of_error_abdication :
    let s := (Store.empty .disabled).after oneOfEach
    (∀ e ∈ oneOfEach ++ [abdication], e.now.InCommonEra)
      ∧ abdication.call.isLogin = false
      ∧ (abdication.call.op abdication.now).2.answer s = .error (.conflict .lastAdminRemoved)
      ∧ s.next abdication = s := by
  have hclock : ∀ e ∈ oneOfEach ++ [abdication], e.now.InCommonEra := by decide
  have hfailed : (Users.update 1 { role := some .superAdmin, password := some "analytical" }
      ⟨4, [18]⟩ (.user "ada") ⟨1772366460, 0⟩).answer ((Store.empty .disabled).after oneOfEach)
        = .error (.conflict .lastAdminRemoved) := by
    decide +kernel
  exact ⟨hclock, rfl, hfailed, Store.next_eq_of_error .disabled hclock rfl hfailed⟩

end RobotMaze
