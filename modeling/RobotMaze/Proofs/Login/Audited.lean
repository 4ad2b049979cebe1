import RobotMaze.Proofs.Login.Opening
import RobotMaze.Proofs.User.Life

/-! # What the log tells of an attempt to log in

    Whoever is let in is seen by the account, gets a login and an entry in the
    log; whoever is not gets an entry alone:

    * `rejection`, `admission`, `opening` — the entries and the login;
    * `Users.Checked`, `authenticate_checked` — how a password is checked against
      what is stored, whatever that is;
    * `Ending`, `logIn_ending` — how an attempt ends, and each table after it;
    * `logIn_endless` — a login that would last too long is not told of. -/

namespace RobotMaze

open Time (Instant)

/-- An account may be used, and a password is the one of it. -/
def User.Accepts (u : User) (password : String) : Prop :=
  u.isActive = true ∧ u.passwordHash.verify password = true

instance (u : User) (password : String) : Decidable (u.Accepts password) :=
  inferInstanceAs (Decidable (_ ∧ _))

/-- A database after the account of an id was seen. -/
def Database.seen (db : Database) (id : Int) (now : Instant) : Database :=
  { db with users := db.users.changed id fun r => r.seenAt now }

theorem Database.find?_seen (db : Database) (id other : Int) (now : Instant) :
    (db.seen id now).users.find? other
      = (db.users.find? other).map fun r => if Row.id r == id then r.seenAt now else r := by
  have hid : ∀ r : UserRow, Row.id (r.seenAt now) = Row.id r := fun _ => rfl
  exact Table.find?_changed hid id other

/-- A change without a condition is refused, or the account of its id is changed. -/
theorem Database.modifyUser_of_found {db : Database} {id : Int} {r : UserRow}
    (f : UserRow → UserRow) (hfind : db.users.find? id = some r) :
    modifyUser id (fun _ _ => true) f db = .error .refused
      ∨ modifyUser id (fun _ _ => true) f db
        = .ok (1, { db with users := db.users.changed id f }) := by
  by_cases hacceptable : userIsAcceptable (f r) (db.users.others id) = true
  · exact Or.inr (modifyUser_of_find _ f hfind rfl hacceptable)
  · left
    simp only [modifyUser, Table.modify]
    rw [hfind]
    simp only [if_neg hacceptable, if_true]
    rfl

/-- A login is refused for its token, or for an account that is not there. -/
theorem Database.insertLogin_refused {session : LoginSession} {db : Database} {f : Failure}
    (h : insertLogin session db = .error f) :
    (∃ r ∈ db.logins, r.token = session.token) ∨ db.users.find? session.userId = none := by
  simp only [insertLogin] at h
  split at h
  · rename_i hrefused
    rcases Bool.or_eq_true_iff.mp hrefused with htaken | hnone
    · obtain ⟨r, hr, htoken⟩ := List.any_eq_true.mp htaken
      exact Or.inl ⟨r, hr, beq_iff_eq.mp htoken⟩
    · exact Or.inr (Option.isNone_iff_eq_none.mp hnone)
  · cases h

namespace Users

variable {s : Store} {now : Instant} {f : Failure}

/-- How a password is checked: it is rejected; or it is the right one, and the account was seen; or
    what is stored of the account is no account, or no account of its own. -/
inductive Checked (username password : String) (now : Instant) (s : Store) :
    Except Failure User → Store → Prop where
  | wrong {found : Option User} (answer : (find username).answer s = .ok found)
      (rejects : ∀ u, found = some u → ¬ u.Accepts password) :
      Checked username password now s (.error .badCredentials) s
  | right {u : User} (answer : (find username).answer s = .ok (some u))
      (accepts : u.Accepts password) (exists_row : s.database.users.find? u.id ≠ none) :
      Checked username password now s (.ok { u with lastLogin := some now })
        { s with database := s.database.seen u.id now }
  | unsound {f : Failure} (other : f ≠ .badCredentials) (unsound : ¬ Stored s) :
      Checked username password now s (.error f) s

/-- What is answered when a name is looked up. -/
theorem answer_find (username : String) (s : Store) : (find username).answer s
    = match s.database.userByName username with
      | none => .ok none
      | some row => row.read.map some := by
  simp only [find]
  rw [Op.Reads.answer_bind (Op.keeps_query _), Op.answer_query]
  cases s.database.userByName username with
  | none => rfl
  | some row =>
      simp only
      rw [Op.Reads.answer_bind (Op.keeps_ofRead _), Op.answer_ofRead]
      cases row.read <;> rfl

/-- An account cannot be looked up only if its row cannot be read. -/
theorem find_error {username : String} (h : (find username).answer s = .error f) :
    ∃ row ∈ s.database.users.rows, row.read = .error f := by
  rw [answer_find] at h
  cases hrow : s.database.userByName username with
  | none =>
      rw [hrow] at h
      cases h
  | some row =>
      have hmem : row ∈ s.database.users.rows := List.mem_of_find?_eq_some hrow
      simp only [hrow] at h
      cases hread : row.read with
      | ok u =>
          rw [hread] at h
          cases h
      | error e =>
          rw [hread] at h
          exact ⟨row, hmem, hread.trans (congrArg Except.error (Except.error.inj h))⟩

/-- The account of a row that is sound can be seen. -/
theorem Stored.modifyUser_seenAt (hs : Stored s) {row : UserRow}
    (hrow : row ∈ s.database.users.rows) (now : Instant) :
    Database.modifyUser row.id (fun _ _ => true) (fun r => r.seenAt now) s.database
      = .ok (1, s.database.seen row.id now) :=
  Database.modifyUser_of_find _ _ (hs.numbered.find?_id hrow) rfl (hs.acceptable hrow rfl rfl)

theorem authenticate_checked (s : Store) (username password : String) (now : Instant) :
    (authenticate username password now).Ends s (Checked username password now s) := by
  simp only [authenticate]
  refine Op.Ends.reading (keeps_find username) (fun f hf => ?_) fun found hfound => ?_
  · obtain ⟨row, hrow, hread⟩ := find_error hf
    obtain ⟨v, rfl⟩ := row.read_error f hread
    refine .unsound (by rintro ⟨⟩) fun hs => ?_
    obtain ⟨u, hu⟩ := (hs.sound row hrow).exists_read
    cases hread.symm.trans hu
  cases found with
  | none =>
      refine Op.ends_throw (.wrong hfound ?_)
      rintro u ⟨⟩
  | some u =>
      obtain ⟨row, hrow, hread⟩ := find_ok hfound
      have hid : row.id = u.id := (congrArg User.id (UserRow.eq_of_read hread)).symm
      by_cases haccepts : u.Accepts password
      · have hin : (!u.isActive || !u.passwordHash.verify password) = false := by
          rw [haccepts.1, haccepts.2]
          rfl
        simp only [hin]
        obtain ⟨r, hr⟩ : ∃ r, s.database.users.find? u.id = some r :=
          Option.isSome_iff_exists.mp (List.find?_isSome.mpr ⟨row, hrow, beq_iff_eq.mpr hid⟩)
        have hmodify := Database.modifyUser_of_found (fun r => r.seenAt now) hr
        refine Op.Ends.changing (fun e he => ?_) fun n db hdb => ?_
        · obtain rfl := Database.modifyUser_error he
          refine .unsound (by rintro ⟨⟩) fun hs => ?_
          have hseen := hs.modifyUser_seenAt hrow now
          rw [hid] at hseen
          cases he.symm.trans hseen
        · rcases hmodify with hrefused | hseen
          · cases hdb.symm.trans hrefused
          · obtain ⟨-, rfl⟩ := Prod.mk.inj (Except.ok.inj (hdb.symm.trans hseen))
            refine Op.ends_pure (.right hfound haccepts fun hnone => ?_)
            cases hr.symm.trans hnone
      · have hout : (!u.isActive || !u.passwordHash.verify password) = true := by
          rw [Bool.or_eq_true, Bool.not_eq_true', Bool.not_eq_true', ← Bool.not_eq_true,
            ← Bool.not_eq_true]
          exact Decidable.not_and_iff_not_or_not.mp haccepts
        simp only [hout, if_true]
        refine Op.ends_throw (.wrong hfound fun v hv => ?_)
        obtain rfl : u = v := Option.some.inj hv
        exact haccepts

end Users

namespace Logins

variable {s : Store}

/-! ## Attempts -/

/-- What is recorded of an attempt to log in that was rejected. -/
def rejection (username : String) (ipAddress userAgent : Option String) : AuditEvent where
  username := AuditEvent.recordedName (some (Text.trim username))
  action := "Login failed"
  kind := .login
  resourceType := "AUTH"
  ipAddress := ipAddress
  userAgent := userAgent
  status := .failed
  errorMessage := some "Invalid username or password"

theorem failed_event_eq (username : String) (actor : Actor) :
    ((actAs actor (Text.trim username)).event "Login failed" .login resource).failed
      Failure.badCredentials.message = rejection username actor.ipAddress actor.userAgent := by
  simp only [actAs, Actor.event, AuditEvent.new, AuditEvent.fromClient, AuditEvent.failed,
    rejection, resource, Failure.message]

/-- What is noted of somebody who was let in. -/
def admission (username : String) (actor : Actor) (u : User) : AuditEvent :=
  ((actAs actor (Text.trim username)).event "User logged in" .login resource).onResource
    (toString u.id) u.username

/-- The login that is opened for an account. -/
def opening (u : User) (token : String) (actor : Actor) (now expiresAt : Instant) : LoginSession :=
  { token, userId := u.id, createdAt := now, expiresAt, ipAddress := actor.ipAddress,
    userAgent := actor.userAgent }

/-- A login is opened, unless it would last too long or its token is taken. -/
theorem openFor_settles {u : User} (hexists : s.database.users.find? u.id ≠ none) (token : String)
    (seconds : Int) (actor : Actor) (now : Instant) :
    (openFor u token seconds actor now).Ends s fun r t =>
      (now.addSeconds? seconds = none ∧ r = .error (.rejected .lifetimeOutOfRange) ∧ t = s)
        ∨ ((∃ row ∈ s.database.logins, row.token = token) ∧ r = .error .refused ∧ t = s)
        ∨ ∃ expiresAt, now.addSeconds? seconds = some expiresAt
          ∧ (∀ row ∈ s.database.logins, row.token ≠ token)
          ∧ r = .ok (opening u token actor now expiresAt)
          ∧ t = { s with database := { s.database with
              logins := s.database.logins ++ [(opening u token actor now expiresAt).row] } } := by
  simp only [openFor]
  cases hexpires : now.addSeconds? seconds with
  | none => exact Op.ends_throw (Or.inl ⟨rfl, rfl, rfl⟩)
  | some expiresAt =>
      refine Op.Ends.changing (fun f hf => ?_) fun _ db hdb => ?_
      · obtain rfl := Database.insertLogin_error hf
        rcases Database.insertLogin_refused hf with htaken | hnone
        · exact Or.inr (Or.inl ⟨htaken, rfl, rfl⟩)
        · exact absurd hnone hexists
      · obtain ⟨hfresh, -, rfl⟩ := Database.insertLogin_ok hdb
        exact Op.ends_pure (Or.inr (Or.inr ⟨expiresAt, rfl, hfresh, rfl, rfl⟩))

/-- How an attempt to log in ends, and what is in the database then. -/
inductive Ending (username password token : String) (seconds : Int) (actor : Actor)
    (now : Instant) (s : Store) : Except Failure (User × LoginSession) → Database → Prop where
  /-- The account does not exist, or is not active, or has another password. -/
  | rejected {found : Option User} {audit : Table AuditRow}
      (answer : (Users.find (Text.trim username)).answer s = .ok found)
      (rejects : ∀ u, found = some u → ¬ u.Accepts password)
      (noted : AuditLog.Noted (rejection username actor.ipAddress actor.userAgent) now
        s.database.audit audit) :
      Ending username password token seconds actor now s (.error .badCredentials)
        { s.database with audit }
  | opened {u : User} {expiresAt : Instant} {audit : Table AuditRow}
      (answer : (Users.find (Text.trim username)).answer s = .ok (some u))
      (accepts : u.Accepts password) (expires : now.addSeconds? seconds = some expiresAt)
      (fresh : ∀ r ∈ s.database.logins, r.token ≠ token)
      (noted : AuditLog.Noted (admission username actor u) now s.database.audit audit) :
      Ending username password token seconds actor now s
        (.ok ({ u with lastLogin := some now }, opening u token actor now expiresAt))
        { s.database.seen u.id now with
          logins := s.database.logins ++ [(opening u token actor now expiresAt).row], audit }
  /-- The password is right, but the login would end after the last second of the calendar. -/
  | tooLong {u : User} (answer : (Users.find (Text.trim username)).answer s = .ok (some u))
      (accepts : u.Accepts password) (expires : now.addSeconds? seconds = none) :
      Ending username password token seconds actor now s (.error (.rejected .lifetimeOutOfRange))
        (s.database.seen u.id now)
  /-- The password is right, but another login has the token. -/
  | tokenTaken {u : User} (answer : (Users.find (Text.trim username)).answer s = .ok (some u))
      (accepts : u.Accepts password) (taken : ∃ r ∈ s.database.logins, r.token = token) :
      Ending username password token seconds actor now s (.error .refused)
        (s.database.seen u.id now)
  /-- What is stored of the account cannot be read, or it is also that of another account. -/
  | unsound {f : Failure} (other : f ≠ .badCredentials) (unsound : ¬ Users.Stored s) :
      Ending username password token seconds actor now s (.error f) s.database

/-- An event is noted, and an answer is given. -/
theorem ends_of_note {α : Type} {e : AuditEvent} {now : Instant} {op : Op α} {r : Except Failure α}
    {post : Except Failure α → Database → Prop}
    (hop : op.Ends (s.noted e now) fun answer t => answer = r ∧ t = s.noted e now)
    (hpost : ∀ audit, AuditLog.Noted e now s.database.audit audit →
      post r { s.database with audit }) :
    (AuditLog.note e now >>= fun _ => op).Ends s fun answer t => post answer t.database := by
  refine Op.Ends.noting (hop.imp ?_)
  rintro answer t ⟨rfl, rfl⟩
  obtain ⟨audit, hnoted, hdatabase⟩ := s.noted_database e now
  rw [hdatabase]
  exact hpost audit hnoted

section Attempt

variable {username password token : String} {seconds : Int} {actor : Actor} {now : Instant}

/-- An attempt that was rejected is noted as such. -/
theorem rejected_ending {found : Option User}
    (answer : (Users.find (Text.trim username)).answer s = .ok found)
    (rejects : ∀ u, found = some u → ¬ u.Accepts password) :
    (AuditLog.note (rejection username actor.ipAddress actor.userAgent) now >>= fun _ =>
        (throw .badCredentials : Op (User × LoginSession))).Ends s fun r t =>
      Ending username password token seconds actor now s r t.database := by
  refine ends_of_note (Op.ends_throw ⟨rfl, rfl⟩) ?_
  intro audit hnoted
  exact .rejected answer rejects hnoted

/-- Whoever was seen gets a login, which is noted, or is turned away, which is not. -/
theorem admitted_ending {u : User}
    (answer : (Users.find (Text.trim username)).answer s = .ok (some u))
    (accepts : u.Accepts password) (exists_row : s.database.users.find? u.id ≠ none) :
    (openFor { u with lastLogin := some now } token seconds actor now >>= fun session =>
        AuditLog.note (admission username actor u) now >>= fun _ =>
          pure ({ u with lastLogin := some now }, session)).Ends
      { s with database := s.database.seen u.id now } fun r t =>
        Ending username password token seconds actor now s r t.database := by
  have hseen : (s.database.seen u.id now).users.find? u.id ≠ none := by
    rw [Database.find?_seen]
    exact mt Option.map_eq_none_iff.mp exists_row
  refine (openFor_settles hseen token seconds actor now).bind ?_ ?_
  · rintro session t (⟨-, hr, -⟩ | ⟨-, hr, -⟩ | ⟨expiresAt, hexpires, hfresh, hr, rfl⟩)
    · cases hr
    · cases hr
    obtain rfl := Except.ok.inj hr
    refine ends_of_note (Op.ends_pure ⟨rfl, rfl⟩) ?_
    intro audit hnoted
    exact .opened answer accepts hexpires hfresh hnoted
  · rintro f t (⟨hexpires, hr, rfl⟩ | ⟨htaken, hr, rfl⟩ | ⟨_, -, -, hr, -⟩)
    · obtain rfl := Except.error.inj hr
      exact .tooLong answer accepts hexpires
    · obtain rfl := Except.error.inj hr
      exact .tokenTaken answer accepts htaken
    · cases hr

end Attempt

/-- Every attempt to log in comes to one of these endings, in whatever store it is made. -/
theorem logIn_ending (s : Store) (username password token : String) (seconds : Int) (actor : Actor)
    (now : Instant) : (logIn username password token seconds actor now).Ends s fun r t =>
      Ending username password token seconds actor now s r t.database := by
  simp only [logIn]
  refine (Users.authenticate_checked s _ password now).attempt.bind ?_ ?_
  · rintro outcome t ⟨_, houtcome, hchecked⟩
    obtain rfl := Except.ok.inj houtcome
    cases hchecked with
    | wrong answer rejects =>
        simp only [failed_event_eq]
        exact rejected_ending answer rejects
    | right answer accepts exists_row => exact admitted_ending answer accepts exists_row
    | @unsound f other unsound =>
        -- which failure it is decides whether it is noted
        cases f with
        | badCredentials => exact absurd rfl other
        | _ => exact Op.ends_throw (.unsound other unsound)
  · rintro f t ⟨_, hfailed, -⟩
    cases hfailed

/-- An administrator has been made. -/
def staffed : Store :=
  (Store.empty .disabled).after [⟨⟨1772366400, 0⟩, .users (.create
    { username := "ada", email := "ada@maze.example", password := "countess", fullName := none,
      role := .admin, isActive := true } ⟨4, [17]⟩ .system)⟩]

/-- Whoever gives the right password for a login that would last too long has been seen by the
    account and is turned away, and the log does not tell of it. -/
theorem logIn_endless :
    let now : Instant := ⟨1772366460, 0⟩
    let attempt := logIn "ada" "countess" "token" 9000000000000 .system now
    let afterwards := (attempt.run staffed).2.database
    attempt.answer staffed = .error (.rejected .lifetimeOutOfRange)
      ∧ afterwards.audit.rows = staffed.database.audit.rows
      ∧ (staffed.database.users.rows.map UserRow.lastLogin) = [none]
      ∧ (afterwards.users.rows.map UserRow.lastLogin) = [some now.stamp] := by
  decide +kernel

end Logins

end RobotMaze
