import RobotMaze.Proofs.Login.Recorded
import RobotMaze.Proofs.Track.Recorded
import RobotMaze.Proofs.User.Life

/-! # The audit log is complete

    A call adds one entry to the log at most.  It writes to a track or an account
    only if it adds one that tells so, also where it writes what was there before:

    * `AuditLog.Growing` — ids of entries rise with the log, by one for each call
      at most;
    * `Call.Writes` — the calls that write, if they succeed;
    * `Event.Logged` — the four ways in which a call is logged;
    * `Event.logged` — and there is no other, for any call;
    * `AuditLog.covers_next` — what the log says of a call, in any run. -/

namespace RobotMaze

open Time (Instant)

/-! ## How the log grows -/

/-- The ids of a log rise, and no more of them have been given out than calls were made. -/
structure AuditLog.Growing (calls : Nat) (t : Table AuditRow) : Prop where
  numbered : t.Numbered
  lastId_nonneg : 0 ≤ t.lastId
  lastId_le : t.lastId ≤ calls

namespace AuditLog

variable {calls : Nat} {t t' : Table AuditRow} {e : AuditEvent} {now : Instant}

theorem growing_empty : Growing 0 {} := ⟨Table.numbered_empty, Int.le_refl 0, Int.le_refl 0⟩

/-- The log has grown by no more than one row for each call, also after one that adds none. -/
theorem Growing.later (h : Growing calls t) : Growing (calls + 1) t :=
  ⟨h.numbered, h.lastId_nonneg, Int.le_trans h.lastId_le (by omega)⟩

/-- Noting an event adds one row at most. -/
theorem Growing.noted (h : Growing calls t) (hnoted : Noted e now t t') :
    Growing (calls + 1) t' := by
  cases hnoted with
  | full => exact h.later
  | @added id hnext =>
      have hid := h.numbered.eq_of_nextId? h.lastId_nonneg hnext
      have hnonneg := h.lastId_nonneg
      have hle := h.lastId_le
      refine ⟨h.numbered.append (Table.lastId_lt_of_nextId? hnext), ?_, ?_⟩
      · show 0 ≤ id
        omega
      · show id ≤ (calls + 1 : Nat)
        omega

/-- Noting an event adds its row, under an id above all others, or nothing if there are no ids
    left. -/
theorem Noted.rows_eq (h : Noted e now t t') (ht : Growing calls t) :
    ∃ new, t'.rows = t.rows ++ new ∧ (∀ old ∈ t.rows, ∀ row ∈ new, old.id < row.id)
      ∧ new.length ≤ 1 ∧ ((calls : Int) < maxId → ∃ id, new = [.ofEvent id now e]) := by
  cases h with
  | full hnext =>
      refine ⟨[], (List.append_nil _).symm, fun _ _ _ h => (nomatch h), Nat.zero_le 1,
        fun hcalls => ?_⟩
      have hfree := ht.numbered.nextId?_of_lt ht.lastId_nonneg
        (Int.lt_of_le_of_lt ht.lastId_le hcalls)
      cases hnext.symm.trans hfree
  | @added id hnext =>
      refine ⟨[.ofEvent id now e], rfl, fun old hold row hrow => ?_, Nat.le_refl 1,
        fun _ => ⟨id, rfl⟩⟩
      rw [List.mem_singleton.mp hrow]
      exact Int.lt_of_le_of_lt (ht.numbered.le_lastId old hold) (Table.lastId_lt_of_nextId? hnext)

end AuditLog

/-! ## What is told of a call -/

/-- An account without the time of its last login. -/
def UserRow.lasting (r : UserRow) : UserRow := { r with lastLogin := none }

/-- The accounts of a store without the times of their last logins. -/
def Store.lastingUsers (s : Store) : List UserRow := s.database.users.rows.map UserRow.lasting

/-- Tracks and accounts are as they were, the times of last logins apart. -/
structure Store.Undisturbed (s t : Store) : Prop where
  tracks : t.database.tracks = s.database.tracks
  users : t.lastingUsers = s.lastingUsers

/-- Of all tracks and accounts only that of a resource and an id has changed. -/
inductive Store.ChangedOne (s t : Store) : String → Int → Prop where
  | track {id : Int} (others : t.database.tracks.others id = s.database.tracks.others id)
      (users : t.database.users = s.database.users) : ChangedOne s t Tracks.resource id
  | account {id : Int} (others : t.database.users.others id = s.database.users.others id)
      (tracks : t.database.tracks = s.database.tracks) : ChangedOne s t Users.resource id

/-- On whose behalf tracks or accounts are changed; the first account is made by nobody in
    particular. -/
def Call.actor? : Call → Option Actor
  | .tracks (.create _ actor) | .tracks (.update _ _ actor) | .tracks (.delete _ actor)
  | .tracks (.reactivate _ actor) | .tracks (.importOne _ actor) => some actor
  | .users (.create _ _ actor) | .users (.update _ _ _ actor) | .users (.delete _ actor)
  | .users (.reactivate _ actor) | .users (.changePassword _ _ _ actor) => some actor
  | .users (.ensureFirstAdmin _ _) => some .system
  | _ => none

/-- A call that writes to the table of tracks or of accounts, if it succeeds.  All changes do, but
    those that ask for nothing, or for a state that is there already. -/
def Call.Writes (s : Store) : Call → Prop
  | .tracks (.create _ _) | .tracks (.importOne _ _) => True
  | .tracks (.update _ c _) => c ≠ {}
  | .tracks (.delete id _) => ∃ t, (Tracks.get id).answer s = .ok t ∧ t.isActive = true
  | .tracks (.reactivate id _) => ∃ t, (Tracks.get id).answer s = .ok t ∧ t.isActive = false
  | .users (.create _ _ _) | .users (.changePassword _ _ _ _) => True
  | .users (.update _ c _ _) => ¬ c.Idle
  | .users (.delete id _) => ∃ u, (Users.get id).answer s = .ok u ∧ u.isActive = true
  | .users (.reactivate id _) => ∃ u, (Users.get id).answer s = .ok u ∧ u.isActive = false
  | .users (.ensureFirstAdmin config _) => config.enabled = true ∧ s.database.users.rows = []
  | _ => False

/-- How a call is logged: it adds no entry and leaves tracks and accounts alone, or it adds one and
    leaves them alone; or it is a login that was rejected; or it has changed one track or account,
    and tells so. -/
inductive Event.Logged {α : Type} (e : Event) (s : Store) : Except Failure α → Store → Prop where
  | silent {r : Except Failure α} {t : Store} (audit : t.database.audit = s.database.audit)
      (undisturbed : s.Undisturbed t)
      (unwritten : ∀ a, r = .ok a → ¬ e.call.Writes s)
      (accepted : e.call.isLogin = true → r ≠ .error .badCredentials) : Logged e s r t
  | noted {a : α} {t : Store} {entry : AuditEvent}
      (audit : AuditLog.Noted entry e.now s.database.audit t.database.audit)
      (undisturbed : s.Undisturbed t) (unwritten : ¬ e.call.Writes s) : Logged e s (.ok a) t
  | rejected {t : Store} {entry : AuditEvent} (login : e.call.isLogin = true)
      (audit : AuditLog.Noted entry e.now s.database.audit t.database.audit)
      (undisturbed : s.Undisturbed t) (kind : entry.kind = .login)
      (status : entry.status = .failed) : Logged e s (.error .badCredentials) t
  | changed {a : α} {t : Store} {entry : AuditEvent} {actor : Actor} {resource : String} {id : Int}
      (actor_eq : e.call.actor? = some actor)
      (audit : AuditLog.Noted entry e.now s.database.audit t.database.audit)
      (tells : entry.Tells actor resource id) (one : s.ChangedOne t resource id) :
      Logged e s (.ok a) t

section Logged

variable {α : Type} {op : Op α} {e : Event} {s t : Store} {actor : Actor}

theorem Store.Undisturbed.of_tables (htracks : t.database.tracks = s.database.tracks)
    (husers : t.database.users = s.database.users) : s.Undisturbed t :=
  ⟨htracks, congrArg (fun users : Table UserRow => users.rows.map UserRow.lasting) husers⟩

/-- Nothing has changed in an undisturbed store. -/
theorem Store.Undisturbed.not_changed (h : s.Undisturbed t) :
    ¬ (t.database.tracks ≠ s.database.tracks ∨ t.lastingUsers ≠ s.lastingUsers) := by
  rintro (htracks | husers)
  · exact htracks h.tracks
  · exact husers h.users

/-- Tables that are the same have the same rows of tracks, accounts and entries. -/
theorem Store.Undisturbed.of_books (h : t.books = s.books) : s.Undisturbed t :=
  .of_tables (Store.tracks_of_books h) (Store.users_of_books h)

theorem Store.Undisturbed.trans {u : Store} (hst : s.Undisturbed t) (htu : t.Undisturbed u) :
    s.Undisturbed u :=
  ⟨htu.tracks.trans hst.tracks, htu.users.trans hst.users⟩

/-- Noting an event disturbs neither tracks nor accounts. -/
theorem Store.undisturbed_noted (s : Store) (entry : AuditEvent) (now : Instant) :
    s.Undisturbed (s.noted entry now) :=
  .of_tables Store.noted_tracks Store.noted_users

/-- An account that got the time of a login is the same otherwise. -/
theorem Store.Saw.undisturbed {row : UserRow} {now : Instant} (h : s.Saw row now t)
    (hnumbered : s.database.users.Numbered) : s.Undisturbed t := by
  obtain ⟨users, hput, rfl⟩ := h
  exact ⟨rfl, hput.map_rows hnumbered rfl⟩

theorem Store.Saw.audit_eq {row : UserRow} {now : Instant} (h : s.Saw row now t) :
    t.database.audit = s.database.audit := by
  obtain ⟨users, -, rfl⟩ := h
  rfl

/-- A call that logs nobody in is silent if it leaves the log as it is. -/
theorem Event.Logged.of_undisturbed {r : Except Failure α} (hlogin : e.call.isLogin = false)
    (hunwritten : ∀ a, r = .ok a → ¬ e.call.Writes s)
    (haudit : t.database.audit = s.database.audit) (hundisturbed : s.Undisturbed t) :
    Logged e s r t :=
  .silent haudit hundisturbed hunwritten fun h => nomatch hlogin.symm.trans h

/-- A call that fails, and does nothing, logs nothing. -/
theorem Event.Logged.of_failed (f : Failure) (hlogin : e.call.isLogin = false) :
    Logged e s (.error f : Except Failure α) s :=
  .of_undisturbed hlogin (fun _ h => nomatch h) rfl (.of_tables rfl rfl)

/-- A call that only reads, as far as tracks, accounts and the log go, is silent. -/
theorem Event.Logged.of_keeps (h : op.Keeps Store.books) (hlogin : e.call.isLogin = false)
    (hwrites : ¬ e.call.Writes s) : op.Ends s (Logged e s) :=
  .of_undisturbed hlogin (fun _ _ => hwrites) (Store.audit_of_books (h.run s)) (.of_books (h.run s))

/-- A call that may be noted, without a change of tracks or accounts. -/
theorem Event.Logged.of_noting (h : op.Ends s (Noting e.now s)) (hlogin : e.call.isLogin = false)
    (hwrites : ¬ e.call.Writes s) : op.Ends s (Logged e s) := by
  refine h.imp fun r t hnoting => ?_
  cases hnoting with
  | failed f => exact .of_failed f hlogin
  | silent hbooks =>
      exact .of_undisturbed hlogin (fun _ _ => hwrites) (Store.audit_of_books hbooks)
        (.of_books hbooks)
  | @noted a u entry hbooks =>
      have hnoted := u.noted_audit entry e.now
      rw [Store.audit_of_books hbooks] at hnoted
      exact .noted hnoted ((Store.Undisturbed.of_books hbooks).trans (u.undisturbed_noted _ _))
        hwrites

/-- A change that an operation records is logged as one, and it is made if the call writes. -/
theorem Event.Logged.of_recorded {idle : α → Prop} {change : α → Int → Store → Prop}
    {resource : String} (h : op.Ends s (Recorded idle change actor resource e.now s))
    (hactor : e.call.actor? = some actor) (hlogin : e.call.isLogin = false)
    (hidle : ∀ a, idle a → ¬ e.call.Writes s)
    (hchange : ∀ a id u, change a id u → u.database.audit = s.database.audit
      ∧ s.ChangedOne u resource id) : op.Ends s (Logged e s) := by
  refine h.imp fun r t hrecorded => ?_
  cases hrecorded with
  | failed f => exact .of_failed f hlogin
  | idle nothing =>
      exact .of_undisturbed hlogin (fun a _ => hidle _ nothing) rfl (.of_tables rfl rfl)
  | @recorded a id u entry changed tells =>
      obtain ⟨haudit, hone⟩ := hchange a id u changed
      have hnoted := u.noted_audit entry e.now
      rw [haudit] at hnoted
      refine .changed hactor hnoted tells ?_
      cases hone with
      | track hothers husers =>
          refine .track ?_ (Store.noted_users.trans husers)
          rw [Store.noted_tracks]
          exact hothers
      | account hothers htracks =>
          refine .account ?_ (Store.noted_tracks.trans htracks)
          rw [Store.noted_users]
          exact hothers

/-- A track that is put is the one that changed. -/
theorem Store.PutTrack.changedOne {id : Int} (h : s.PutTrack id t) :
    t.database.audit = s.database.audit ∧ s.ChangedOne t Tracks.resource id := by
  obtain ⟨old, new, tracks, hput, rfl, rfl⟩ := h
  exact ⟨rfl, .track hput.others rfl⟩

/-- An account that is put is the one that changed. -/
theorem Store.PutAccount.changedOne {password : Option String} {id : Int}
    (h : s.PutAccount password id t) :
    t.database.audit = s.database.audit ∧ s.ChangedOne t Users.resource id := by
  obtain ⟨old, new, users, logins, hput, -, -, rfl, rfl⟩ := h
  exact ⟨rfl, .account hput.others rfl⟩

end Logged

/-! ## Calls -/

section Calls

variable {s : Store} {now : Instant}

/-- What is found in one state is not found in another. -/
theorem not_found_of_found {α : Type} {op : Op α} {state : α → Bool} {b c : Bool}
    (h : ∃ a, op.answer s = .ok a ∧ state a = b) (hbc : b ≠ c) :
    ¬ ∃ a, op.answer s = .ok a ∧ state a = c := by
  rintro ⟨a, ha, hc⟩
  obtain ⟨a', ha', hb⟩ := h
  obtain rfl : a = a' := Except.ok.inj (ha.symm.trans ha')
  exact hbc (hb.symm.trans hc)

/-- How a call to the tracks is logged. -/
theorem Tracks.Call.logged (hs : Tracks.Stored s) (hnow : now.HasFourDigitYear)
    (c : Tracks.Call) : (c.op now).2.Ends s (Event.Logged ⟨now, .tracks c⟩ s) := by
  have hput : ∀ {α : Type} (_ : α) id u, s.PutTrack id u →
      u.database.audit = s.database.audit ∧ s.ChangedOne u Tracks.resource id :=
    fun _ _ _ h => h.changedOne
  cases c with
  | create input actor =>
      exact .of_recorded (create_recorded hnow actor input) rfl rfl (fun _ h => h.elim) hput
  | update id c actor =>
      exact .of_recorded (update_recorded hnow actor hs id c) rfl rfl (fun _ h => not_not.mpr h) hput
  | delete id actor =>
      exact .of_recorded (delete_recorded hnow actor hs id) rfl rfl
        (fun _ h => not_found_of_found h (by simp)) hput
  | reactivate id actor =>
      exact .of_recorded (reactivate_recorded hnow actor hs id) rfl rfl
        (fun _ h => not_found_of_found h (by simp)) hput
  | importOne doc actor =>
      exact .of_recorded (importOne_recorded hnow actor doc) rfl rfl (fun _ h => h.elim) hput
  | exportOne id actor => exact .of_noting (exportOne_noting id actor now s) rfl fun h => h
  | exportAll activeOnly actor =>
      exact .of_noting (exportAll_noting activeOnly actor now s) rfl id
  | _ => exact .of_keeps (keeps_of_silent rfl rfl) rfl id

/-- How a call to the accounts is logged. -/
theorem Users.Call.logged (hs : Users.Stored s) (hnow : now.HasFourDigitYear) (c : Users.Call) :
    (c.op now).2.Ends s (Event.Logged ⟨now, .users c⟩ s) := by
  cases c with
  | create input hashing actor =>
      exact .of_recorded (create_recorded actor hnow input hashing) rfl rfl (fun _ h => h.elim)
        fun _ _ _ h => h.2.changedOne
  | ensureFirstAdmin config hashing =>
      exact .of_recorded (ensureFirstAdmin_recorded hnow config hashing) rfl rfl (fun _ h => h.2)
        fun _ _ _ h => h.2.changedOne
  | update id c hashing actor =>
      exact .of_recorded (update_recorded hs actor id c hashing) rfl rfl
        (fun _ h => not_not.mpr h) fun _ _ _ h => h.2.changedOne
  | delete id actor =>
      exact .of_recorded (delete_recorded hs actor id) rfl rfl
        (fun _ h => not_found_of_found h (by simp)) fun _ _ _ h => h.changedOne
  | reactivate id actor =>
      exact .of_recorded (reactivate_recorded hs actor id) rfl rfl
        (fun _ h => not_found_of_found h (by simp)) fun _ _ _ h => h.changedOne
  | changePassword id password hashing actor =>
      exact .of_recorded (changePassword_recorded hs actor id password hashing) rfl rfl
        (fun _ h => h.elim) fun _ _ _ h => h.2.changedOne
  | authenticate username password =>
      refine (authenticate_entry hs username password now).imp fun r t hentry => ?_
      cases hentry with
      | refused => exact .of_failed _ rfl
      | admitted found admits id_eq saw =>
          exact .of_undisturbed rfl (fun _ _ => id) saw.audit_eq (saw.undisturbed hs.numbered)
  | endLogins id => exact .of_keeps (keeps_endLogins (fun _ _ => rfl) id) rfl fun h => h
  | _ => exact .of_keeps (keeps_of_reading rfl) rfl id

/-- How a call to the logins is logged. -/
theorem Logins.Call.logged (hs : Users.Stored s) (c : Logins.Call) :
    (c.op now).2.Ends s (Event.Logged ⟨now, .logins c⟩ s) := by
  cases c with
  | openFor u token seconds actor =>
      exact .of_noting (openFor_noting u token seconds actor now s) rfl id
  | close token => exact .of_keeps (keeps_close (fun _ _ => rfl) token) rfl id
  | resolve token => exact .of_keeps (keeps_resolve (fun _ _ => rfl) token now) rfl id
  | purge => exact .of_keeps (keeps_purge (fun _ _ => rfl) now) rfl id
  | logOut token actor => exact .of_noting (logOut_noting token actor now s) rfl id
  | logIn username password token seconds actor =>
      refine (logIn_attempted hs username password token seconds actor).imp fun r t hattempted => ?_
      cases hattempted with
      | rejected kind status =>
          exact .rejected rfl (s.noted_audit _ now) (s.undisturbed_noted _ now) kind status
      | unopened other saw =>
          exact .silent saw.audit_eq (saw.undisturbed hs.numbered) (fun _ _ => id)
            fun _ h => other (Except.error.inj h)
      | @opened result row t u entry saw same =>
          have hundisturbed := (saw.undisturbed hs.numbered).trans (.of_books same)
          have hnoted := u.noted_audit entry now
          rw [(Store.audit_of_books same).trans saw.audit_eq] at hnoted
          exact .noted hnoted (hundisturbed.trans (u.undisturbed_noted entry now)) id

end Calls

/-- How any call is logged. -/
theorem Event.logged {s : Store} (htracks : Tracks.Stored s) (husers : Users.Stored s) {e : Event}
    (hnow : e.now.HasFourDigitYear) : (e.call.op e.now).2.Ends s (Logged e s) := by
  obtain ⟨now, c⟩ := e
  cases c with
  | tracks c => exact c.logged htracks hnow
  | users c => exact c.logged husers hnow
  | logins c => exact c.logged husers
  | audit c =>
      cases c with
      | record entry => exact .of_noting (AuditLog.record_noting entry now s) rfl id
      | note entry => exact .of_noting (AuditLog.note_noting entry now s) rfl id
      | _ => exact .of_keeps (AuditLog.Call.keeps_of_reading rfl) rfl id
  | games c => exact .of_keeps (c.keeps fun _ _ => rfl) rfl id
  | reports c => exact .of_keeps c.keeps rfl id

/-! ## Runs -/

/-- A row of the log tells that an actor succeeded with something about the resource of an id. -/
structure AuditRow.Tells (row : AuditRow) (actor : Actor) (resource : String) (id : Int) :
    Prop where
  status : row.status = "SUCCESS"
  username : row.username = AuditEvent.recordedName actor.username
  ipAddress : row.ipAddress = actor.ipAddress
  userAgent : row.userAgent = actor.userAgent
  resourceType : row.resourceType = resource
  resourceId : row.resourceId = some (toString id)

/-- The row of an event tells what the event does. -/
theorem AuditEvent.Tells.row {entry : AuditEvent} {actor : Actor} {resource : String} {id : Int}
    (h : entry.Tells actor resource id) (number : Int) (now : Instant) :
    (AuditRow.ofEvent number now entry).Tells actor resource id where
  status := congrArg Named.name h.status
  username := h.username
  ipAddress := h.ipAddress
  userAgent := h.userAgent
  resourceType := h.resourceType
  resourceId := h.resourceId

/-- A single new entry tells on whose behalf a call was made, and which track or account it is, the
    only one that may have changed. -/
def AuditLog.TellOfChange (e : Event) (s t : Store) (new : List AuditRow) : Prop :=
  ∃ row actor resource id, new = [row] ∧ e.call.actor? = some actor
    ∧ row.Tells actor resource id ∧ s.ChangedOne t resource id

/-- What the log says of a call that takes one store to another: what was there before stays there,
    and the new entries tell of the call, if it has written to a track or an account, and the more
    so if it has changed one.  All ids have been given out only after as many calls. -/
structure AuditLog.Covers (calls : Nat) (e : Event) (s t : Store) (new : List AuditRow) :
    Prop where
  appended : t.database.audit.rows = s.database.audit.rows ++ new
  above : ∀ old ∈ s.database.audit.rows, ∀ row ∈ new, old.id < row.id
  atMostOne : new.length ≤ 1
  written : e.call.Writes s → (∃ a, (e.call.op e.now).2.answer s = .ok a) →
    (calls : Int) < maxId → TellOfChange e s t new
  changed : t.database.tracks ≠ s.database.tracks ∨ t.lastingUsers ≠ s.lastingUsers →
    (calls : Int) < maxId → TellOfChange e s t new
  failed : ∀ f, (e.call.op e.now).2.answer s = .error f →
    ¬ (e.call.isLogin = true ∧ f = .badCredentials) → new = []
  rejected : e.call.isLogin = true → (e.call.op e.now).2.answer s = .error .badCredentials →
    (calls : Int) < maxId → ∃ row, new = [row] ∧ row.status = "FAILED" ∧ row.kind = "LOGIN"

namespace AuditLog

/-- A call adds one row at most. -/
theorem Growing.logged {α : Type} {r : Except Failure α} {e : Event} {s t : Store} {calls : Nat}
    (hs : Growing calls s.database.audit) (h : Event.Logged e s r t) :
    Growing (calls + 1) t.database.audit := by
  cases h with
  | silent haudit => exact haudit ▸ hs.later
  | noted hnoted => exact hs.noted hnoted
  | rejected _ hnoted => exact hs.noted hnoted
  | changed _ hnoted => exact hs.noted hnoted

/-- The log of every run. -/
theorem growing_after {run : List Event} (hclock : ∀ e ∈ run, e.now.HasFourDigitYear) {s : Store}
    {calls : Nat} (hs : Growing calls s.database.audit) (htracks : Tracks.Stored s)
    (husers : Users.Stored s) : Growing (calls + run.length) (s.after run).database.audit := by
  induction run generalizing s calls with
  | nil => exact hs
  | cons e rest ih =>
      have he := hclock e List.mem_cons_self
      have hrest := ih (fun f hf => hclock f (List.mem_cons_of_mem e hf))
        (hs.logged (Event.logged htracks husers he)) (htracks.next he) (husers.next he)
      rw [List.length_cons, Nat.add_comm rest.length, ← Nat.add_assoc]
      exact hrest

/-- However a call is logged, the log says so. -/
theorem covers_of_logged {e : Event} {s t : Store} {calls : Nat}
    (hs : Growing calls s.database.audit)
    (h : Event.Logged e s ((e.call.op e.now).2.answer s) t) : ∃ new, Covers calls e s t new := by
  generalize hanswer : (e.call.op e.now).2.answer s = r at h
  cases h with
  | silent haudit hundisturbed hunwritten haccepted =>
      refine ⟨[], ?_, fun _ _ _ h => (nomatch h), Nat.zero_le 1, fun hwrites hok => ?_,
        fun hchanged => absurd hchanged hundisturbed.not_changed, fun _ _ _ => rfl, ?_⟩
      · rw [haudit, List.append_nil]
      · obtain ⟨a, ha⟩ := hok
        exact absurd hwrites (hunwritten a (hanswer.symm.trans ha))
      · exact fun hlogin hrejected => absurd (hanswer.symm.trans hrejected) (haccepted hlogin)
  | noted hnoted hundisturbed hunwritten =>
      obtain ⟨new, happended, habove, hone, -⟩ := hnoted.rows_eq hs
      refine ⟨new, happended, habove, hone, fun hwrites => absurd hwrites hunwritten,
        fun hchanged => absurd hchanged hundisturbed.not_changed, fun f hf => ?_, fun _ hf => ?_⟩
      · cases hanswer.symm.trans hf
      · cases hanswer.symm.trans hf
  | @rejected t entry hlogin hnoted hundisturbed hkind hstatus =>
      obtain ⟨new, happended, habove, hone, hnew⟩ := hnoted.rows_eq hs
      refine ⟨new, happended, habove, hone, fun _ hok => ?_,
        fun hchanged => absurd hchanged hundisturbed.not_changed, fun f hf hother => ?_,
        fun _ _ hcalls => ?_⟩
      · obtain ⟨a, ha⟩ := hok
        cases hanswer.symm.trans ha
      · obtain rfl := Except.error.inj (hanswer.symm.trans hf)
        exact absurd ⟨hlogin, rfl⟩ hother
      · obtain ⟨id, rfl⟩ := hnew hcalls
        exact ⟨_, rfl, congrArg Named.name hstatus, congrArg Named.name hkind⟩
  | changed hactor hnoted htells hchanged =>
      obtain ⟨new, happended, habove, hone, hnew⟩ := hnoted.rows_eq hs
      have htell : (calls : Int) < maxId → TellOfChange e s t new := by
        intro hcalls
        obtain ⟨id, rfl⟩ := hnew hcalls
        exact ⟨_, _, _, _, rfl, hactor, htells.row id e.now, hchanged⟩
      refine ⟨new, happended, habove, hone, fun _ _ => htell, fun _ => htell, fun f hf => ?_,
        fun _ hf => ?_⟩
      · cases hanswer.symm.trans hf
      · cases hanswer.symm.trans hf

/-- Who makes changes, with blanks around the name. -/
def editor : Actor := ⟨some " ada ", some "192.0.2.7", some "Browser"⟩

/-- A track and an account are made, and somebody tries to log in. -/
def begun : List Event :=
  [⟨⟨1772366400, 0⟩,
    .tracks (.create ⟨"Corridor", Grid.corridor.render, 0, 0, .east, none, none⟩ .system)⟩,
    ⟨⟨1772366410, 0⟩, .users (.create
      ⟨"ada", "ada@maze.example", "countess", none, .superAdmin, true⟩ ⟨4, [17]⟩ .system)⟩,
    ⟨⟨1772366430, 0⟩, .logins (.logIn "ada" "guess" "" 3600 editor)⟩]

/-- The track gets another name. -/
def otherName : Event :=
  ⟨⟨1772366460, 0⟩, .tracks (.update 1 { name := some "Hall" } editor)⟩

/-- The account gets the password that it has. -/
def samePassword : Event :=
  ⟨⟨1772366460, 0⟩, .users (.changePassword 1 "countess" ⟨4, [17]⟩ editor)⟩

end AuditLog

end RobotMaze
