import RobotMaze.Proofs.Login.Standing

/-! # How logins begin

    A login is opened for a user whose password was right and who is active:

    * `flagged_after` — the accounts of every run are active or not, and share no
      ids;
    * `authenticate_ends`, `openFor_ends` — the two halves of logging in;
    * `logIn_ends` — the two put together;
    * `logIn_ok` — a login that was opened stands. -/

namespace RobotMaze

open Time (Instant)

/-! ## Accounts of a run -/

/-- No two accounts share an id, and each is either active or not. -/
def flagged : Pact Store :=
  .always fun s => s.database.users.Numbered
    ∧ ∀ r ∈ s.database.users.rows, r.isActive = 0 ∨ r.isActive = 1

/-- What a write does to the table keeps ids and flags. -/
theorem flagged_of_written {t : Store} {users : Table UserRow} (h : flagged.holds t)
    (hwritten : Table.Written (fun r : UserRow => r.isActive = 0 ∨ r.isActive = 1)
      Database.userIsAcceptable t.database.users users) :
    flagged.holds { t with database := { t.database with users } } :=
  ⟨hwritten.numbered h.1, hwritten.forall_rows h.1 h.2⟩

theorem insertUser_upholds_flagged {make : Int → UserRow} (hid : ∀ id, Row.id (make id) = id)
    (hflag : ∀ id, (make id).isActive = 0 ∨ (make id).isActive = 1) :
    (Op.change (Database.insertUser make)).Upholds flagged := by
  refine fun s => Op.honours_change fun t _ hflagged row db hchange => ⟨?_, trivial⟩
  obtain ⟨users, hinsert, rfl⟩ := Database.insertUser_ok hchange
  exact flagged_of_written hflagged (.added hid hflag hinsert)

theorem modifyUser_upholds_flagged {id : Int} {condition : Database → UserRow → Bool}
    {f : UserRow → UserRow} (hid : ∀ r, Row.id (f r) = Row.id r)
    (hflag : ∀ r, r.isActive = 0 ∨ r.isActive = 1 → (f r).isActive = 0 ∨ (f r).isActive = 1) :
    (Op.change (Database.modifyUser id condition f)).Upholds flagged := by
  refine fun s => Op.honours_change fun t _ hflagged n db hchange => ⟨?_, trivial⟩
  obtain ⟨users, hmodify, rfl⟩ := Database.modifyUser_ok hchange
  exact flagged_of_written hflagged (.changed hid (fun r _ => hflag r) hmodify)

theorem flagged_sees : flagged.Sees fun s => s.database.users :=
  Pact.always_sees (Q := fun users : Table UserRow =>
    users.Numbered ∧ ∀ r ∈ users.rows, r.isActive = 0 ∨ r.isActive = 1)

theorem upholds_flagged (e : Event) : (e.call.op e.now).2.Upholds flagged := by
  have hbeside : BesideLogins fun s => s.database.users := fun _ _ => rfl
  have hend := fun id => (Users.keeps_endLogins hbeside id).upholds flagged_sees
  refine e.upholds_of_sees flagged_sees fun c => ?_
  cases c with
  | create | ensureFirstAdmin =>
      exact fun _ _ _ _ => insertUser_upholds_flagged (fun _ => rfl) fun _ => flag_eq_zero_or_one _
  | update id c =>
      refine ⟨fun checked hash _ _ => ?_, fun _ => hend id⟩
      refine modifyUser_upholds_flagged (fun _ => rfl) fun r hr => ?_
      simp only [Users.changeRow]
      cases checked.isActive with
      | none => exact hr
      | some active => exact flag_eq_zero_or_one active
  | delete id => exact ⟨modifyUser_upholds_flagged (fun _ => rfl) fun _ _ => Or.inl rfl, hend id⟩
  | reactivate => exact modifyUser_upholds_flagged (fun _ => rfl) fun _ _ => Or.inr rfl
  | changePassword | authenticate =>
      exact fun _ => modifyUser_upholds_flagged (fun _ => rfl) fun _ hr => hr
  | endLogins id => exact hend id
  | _ => trivial

/-- The accounts of every run are sound. -/
theorem flagged_after (trail : Trail) (run : List Event) :
    flagged.holds ((Store.empty trail).after run) := by
  have hempty : flagged.holds (Store.empty trail) := ⟨Table.numbered_empty, fun _ h => by cases h⟩
  exact Store.after_upholds hempty fun e _ => upholds_flagged e

/-! ## Logging in -/

namespace Users

variable {s : Store} {now : Instant}

/-- The account that is found under a name is that of a row. -/
theorem find_ok {name : String} {u : User} (h : (find name).answer s = .ok (some u)) :
    ∃ row ∈ s.database.users.rows, row.read = .ok u := by
  simp only [find] at h
  obtain ⟨found, hfound, h⟩ := Op.Reads.ok_of_bind (Op.keeps_query _) h
  obtain rfl := Except.ok.inj hfound
  cases hrow : s.database.userByName name with
  | none =>
      simp only [hrow] at h
      cases h
  | some row =>
      simp only [hrow] at h
      obtain ⟨v, hv, h⟩ := Op.Reads.ok_of_bind (Op.keeps_ofRead _) h
      obtain rfl : v = u := Option.some.inj (Except.ok.inj h)
      rw [Op.answer_ofRead] at hv
      exact ⟨row, List.mem_of_find?_eq_some hrow, hv⟩

/-- Whoever is let in has an active account, and no login is touched. -/
theorem authenticate_ends (hflagged : flagged.holds s) (name password : String) :
    (authenticate name password now).Ends s fun x t => ∀ u, x = .ok u →
      t.database.logins = s.database.logins ∧ t.database.users.Numbered
        ∧ t.database.HasActiveUser u.id := by
  obtain ⟨hnumbered, hflags⟩ := hflagged
  simp only [authenticate]
  refine Op.Ends.reading (keeps_find name) (fun _ _ => forall_ok_of_error) fun found hfound => ?_
  cases found with
  | none => exact Op.ends_throw fun _ h => by cases h
  | some u =>
      obtain ⟨row, hrow, hread⟩ := find_ok hfound
      by_cases hbad : (!u.isActive || !u.passwordHash.verify password) = true
      · simp only [hbad, if_true]
        exact Op.ends_throw fun _ h => by cases h
      simp only [hbad]
      refine Op.Ends.changing (fun _ _ => forall_ok_of_error) fun n db hdb => ?_
      obtain ⟨users, hmodify, rfl⟩ := Database.modifyUser_ok hdb
      -- the flag is not zero, so the account is active, before the change and after it
      have hu := UserRow.eq_of_read hread
      have huid : u.id = row.id := congrArg User.id hu
      have hflag : u.isActive = (row.isActive != 0) := congrArg User.isActive hu
      have hid : ∀ r : UserRow, Row.id { r with lastLogin := some now.stamp } = Row.id r :=
        fun _ => rfl
      have hactive : Database.userIsActive row = true := by
        have hnonzero : (row.isActive != 0) = true := by
          rw [← hflag]
          simpa using (not_or.mp (mt Bool.or_eq_true_iff.mpr hbad)).1
        rcases hflags row hrow with hzero | hone
        · rw [hzero] at hnonzero
          cases hnonzero
        · exact beq_iff_eq.mpr hone
      have hfind : s.database.users.find? u.id = some row := huid ▸ hnumbered.find?_id hrow
      refine Op.ends_pure fun v hv => ?_
      obtain rfl := Except.ok.inj hv
      refine ⟨rfl, hnumbered.modify hid hmodify, ?_⟩
      rcases Table.modify_ok hmodify with ⟨-, rfl⟩ | ⟨-, -, -, -, -, rfl⟩
      · exact ⟨row, hfind, hactive⟩
      · exact Table.exists_find?_changed hid (fun _ _ hr => hr) ⟨row, hfind, hactive⟩

end Users

namespace Logins

variable {s : Store} {now : Instant}

/-- A login has the token that it was given, and it stands if it was opened for an active user. -/
theorem openFor_ends (u : User) (token : String) (seconds : Int) (actor : Actor) :
    (openFor u token seconds actor now).Ends s fun x t => ∀ session, x = .ok session →
      (s.database.users.Numbered → s.database.HasActiveUser u.id → session.row.Stands t.database)
        ∧ session.token = token ∧ session.userId = u.id
        ∧ now.addSeconds? seconds = some session.expiresAt := by
  simp only [openFor]
  cases hexpires : now.addSeconds? seconds with
  | none => exact Op.ends_throw fun _ h => by cases h
  | some expiresAt =>
      refine Op.Ends.changing (fun _ _ => forall_ok_of_error) fun _ db hdb => ?_
      obtain ⟨hfresh, -, rfl⟩ := Database.insertLogin_ok hdb
      refine Op.ends_pure fun session hsession => ?_
      obtain rfl := Except.ok.inj hsession
      refine ⟨fun hnumbered hactive => ⟨hnumbered, ?_, hactive⟩, rfl, rfl, rfl⟩
      -- the token is new, so the row that was added is the only one of it
      have hothers : s.database.logins.filter (fun r : LoginRow => r.token == token) = [] :=
        List.filter_eq_nil_iff.mpr fun r hr => mt beq_iff_eq.mp (hfresh r hr)
      show (s.database.logins ++ [_]).filter (fun r : LoginRow => r.token == token) = [_]
      rw [List.filter_append, hothers, List.nil_append]
      exact List.filter_cons_of_pos (beq_self_eq_true token)

/-- Logging in is an authentication, then a login that is opened, then a note of it: what holds of
    opened logins holds of the answer, if it holds beside the audit log. -/
theorem logIn_ends {username password token : String} {seconds : Int} {actor : Actor}
    (admitted : User → Store → Prop) (opened : User → LoginSession → Store → Prop)
    (hadmitted : (Users.authenticate (Text.trim username) password now).Ends s fun x t =>
      ∀ u, x = .ok u → admitted u t)
    (hopened : ∀ {u : User} {t : Store}, admitted u t → (openFor u token seconds actor now).Ends t
      fun x w => ∀ session, x = .ok session → opened u session w)
    (hnoted : ∀ {u session} {w t : Store}, t.accounts = w.accounts → opened u session w →
      opened u session t) :
    (logIn username password token seconds actor now).Ends s fun x t =>
      ∀ u session, x = .ok (u, session) → opened u session t := by
  simp only [logIn]
  refine hadmitted.attempt.bind ?_ ?_
  · rintro outcome t ⟨_, houtcome, hauthenticated⟩
    obtain rfl := Except.ok.inj houtcome
    split
    · -- the attempt is recorded, and nobody is let in
      refine Op.Ends.bind (show Op.Ends _ t fun _ _ => True from trivial) (fun _ v _ => ?_) ?_
      · exact Op.ends_throw fun _ _ h => by cases h
      · exact fun _ _ _ _ _ h => by cases h
    · exact Op.ends_throw fun _ _ h => by cases h
    · rename_i v
      refine (hopened (hauthenticated v rfl)).bind ?_ fun _ _ _ _ _ h => by cases h
      intro session w hsession
      have hnote := AuditLog.keeps_note besideAudit_accounts
        (((actAs actor (Text.trim username)).event "User logged in" .login resource).onResource
          (toString v.id) v.username) now
      refine Op.Ends.bind (Op.Ends.keeping hnote fun _ _ hkept => hkept) ?_
        fun _ _ _ _ _ h => by cases h
      intro _ final hfinal
      refine Op.ends_pure fun u found hresult => ?_
      obtain ⟨rfl, rfl⟩ := Prod.mk.inj (Except.ok.inj hresult)
      exact hnoted hfinal (hsession session rfl)
  · rintro e t ⟨_, hfailed, -⟩
    cases hfailed

/-- A login has the token that it was given. -/
theorem logIn_token (username password token : String) (seconds : Int) (actor : Actor) :
    (logIn username password token seconds actor now).Ends s fun x _ =>
      ∀ u session, x = .ok (u, session) → session.token = token := by
  refine logIn_ends (fun _ _ => True) (fun _ session _ => session.token = token)
    (fun _ _ => trivial) (fun {u _} _ => ?_) fun _ htoken => htoken
  exact (openFor_ends u token seconds actor).imp fun _ _ h session hsession =>
    (h session hsession).2.1

/-- A login that was opened stands, for the user who logged in. -/
theorem logIn_ok {username password token : String} {seconds : Int} {actor : Actor} {u : User}
    {session : LoginSession} (hflagged : flagged.holds s)
    (h : (logIn username password token seconds actor now).answer s = .ok (u, session)) :
    session.row.Stands ((logIn username password token seconds actor now).run s).2.database
      ∧ session.token = token ∧ session.userId = u.id
      ∧ now.addSeconds? seconds = some session.expiresAt := by
  refine logIn_ends (fun u t => t.database.users.Numbered ∧ t.database.HasActiveUser u.id)
    (fun u session t => session.row.Stands t.database ∧ session.token = token
      ∧ session.userId = u.id ∧ now.addSeconds? seconds = some session.expiresAt)
    ?_ ?_ ?_ u session h
  · exact (Users.authenticate_ends hflagged _ password).imp fun _ _ hadmitted u hu =>
      (hadmitted u hu).2
  · rintro u t ⟨hnumbered, hactive⟩
    refine (openFor_ends u token seconds actor).imp fun _ _ hopened session hsession => ?_
    obtain ⟨hstands, hrest⟩ := hopened session hsession
    exact ⟨hstands hnumbered hactive, hrest⟩
  · exact fun hkept hopened => hopened.imp_left fun hstands => hstands.of_accounts hkept

end Logins

end RobotMaze
