import Mathlib.Data.List.Pairwise
import RobotMaze.Proofs.User.Recorded

/-! # Who is let in, and how it is recorded

    A username and a password are answered by the row of that username alone, and the
    answer is noted:

    * `UserRow.Admits` — the account is active, and the password is that of its
      hash;
    * `Users.Entry` — whoever is let in leaves the time of the login behind, and
      whoever is not leaves nothing;
    * `authenticate_entry` — that is how checking a password ends;
    * `openFor_noting`, `logOut_noting` — what concerns logins alone;
    * `Attempted` — the three ways in which logging in ends;
    * `logIn_attempted` — and there is no other. -/

namespace RobotMaze

open Time (Instant)

/-! ## Checking a password -/

/-- An account is active and has a password of the same key. -/
def UserRow.Admits (r : UserRow) (password : String) : Prop :=
  r.isActive = 1 ∧ r.passwordHash.key? = some (passwordKey password)

/-- An account with the time of its last login. -/
def UserRow.seenAt (r : UserRow) (now : Instant) : UserRow := { r with lastLogin := some now.stamp }

/-- An account of a store got the time of a login. -/
def Store.Saw (s : Store) (row : UserRow) (now : Instant) (t : Store) : Prop :=
  ∃ users, s.database.users.Put (some row) (row.seenAt now) users
    ∧ t = { s with database := { s.database with users } }

/-- A hash of a password fits exactly the passwords of the same key. -/
theorem PasswordHash.verify_eq_true {hash : PasswordHash} {password : String} :
    hash.verify password = true ↔ hash.key? = some (passwordKey password) := by
  cases hash with
  | ofKey hashing key =>
      simp only [verify, key?, beq_iff_eq, Option.some.injEq]
      exact eq_comm
  | unusable text => exact ⟨fun h => (by cases h), fun h => by cases h⟩

/-- A change that finds an account and breaks no rule is made. -/
theorem Database.modifyUser_of_find {db : Database} {id : Int} {r : UserRow}
    (condition : Database → UserRow → Bool) (f : UserRow → UserRow)
    (hfind : db.users.find? id = some r) (hcondition : condition db r = true)
    (hacceptable : userIsAcceptable (f r) (db.users.others id) = true) :
    modifyUser id condition f db = .ok (1, { db with users := db.users.changed id f }) := by
  simp only [modifyUser, Table.modify]
  rw [hfind]
  simp only [hcondition, hacceptable, if_true]
  rfl

namespace Users

variable {s : Store} {now : Instant}

/-- How checking a username and a password ends. -/
inductive Entry (username password : String) (now : Instant) (s : Store) :
    Except Failure User → Store → Prop where
  | refused (wrong : ∀ row, s.database.userByName username = some row → ¬ row.Admits password) :
      Entry username password now s (.error .badCredentials) s
  | admitted {row : UserRow} {u : User} {t : Store}
      (found : s.database.userByName username = some row) (admits : row.Admits password)
      (id_eq : u.id = row.id) (saw : s.Saw row now t) : Entry username password now s (.ok u) t

/-- The account of a username is that of its row. -/
theorem find_answer {username : String} {row : UserRow} {u : User}
    (hfound : s.database.userByName username = some row) (hread : row.read = .ok u) :
    (find username).answer s = .ok (some u) := by
  simp only [find]
  rw [Op.Reads.answer_bind (Op.keeps_query _), Op.answer_query]
  simp only [hfound]
  rw [Op.Reads.answer_bind (Op.keeps_ofRead _), Op.answer_ofRead, hread]
  rfl

theorem find_answer_none {username : String} (hfound : s.database.userByName username = none) :
    (find username).answer s = .ok none := by
  simp only [find]
  rw [Op.Reads.answer_bind (Op.keeps_query _), Op.answer_query]
  simp only [hfound]
  rfl

/-- An account that keeps its username and its address is acceptable in its old place. -/
theorem Stored.acceptable (hs : Stored s) {row : UserRow} (hrow : row ∈ s.database.users.rows)
    {changed : UserRow} (husername : changed.username = row.username)
    (hemail : changed.email = row.email) :
    Database.userIsAcceptable changed (s.database.users.others row.id) = true := by
  simp only [Database.userIsAcceptable, Bool.not_eq_true']
  refine List.any_eq_false.mpr fun other hother => ?_
  obtain ⟨hmem, hdifferent⟩ := Table.mem_others.mp hother
  obtain ⟨hname, haddress⟩ := hs.apart.forall hrow hmem fun h => hdifferent (congrArg Row.id h.symm)
  rw [husername, hemail, Bool.or_eq_true, beq_iff_eq, beq_iff_eq]
  rintro (h | h)
  · exact hname h.symm
  · exact haddress h.symm

/-- Checking a password never gets stuck on what is stored. -/
theorem authenticate_entry (hs : Stored s) (username password : String) (now : Instant) :
    (authenticate username password now).Ends s (Entry username password now s) := by
  simp only [authenticate]
  cases hfound : s.database.userByName username with
  | none =>
      refine Op.Ends.reading_of_answer (keeps_find username) (find_answer_none hfound) ?_
      exact Op.ends_throw (.refused fun row h => by cases hfound.symm.trans h)
  | some row =>
      have hrow : row ∈ s.database.users.rows := List.mem_of_find?_eq_some hfound
      have hsound := hs.sound row hrow
      obtain ⟨u, hread⟩ := hsound.exists_read
      have hid : u.id = row.id := congrArg User.id (UserRow.eq_of_read hread)
      have hactive : u.isActive = true ↔ row.isActive = 1 := by
        rw [congrArg User.isActive (UserRow.eq_of_read hread)]
        rcases hsound.isActive with h | h <;> simp [h]
      have hverify : u.passwordHash.verify password = true
          ↔ row.passwordHash.key? = some (passwordKey password) := by
        rw [congrArg User.passwordHash (UserRow.eq_of_read hread), PasswordHash.verify_eq_true]
      refine Op.Ends.reading_of_answer (keeps_find username) (find_answer hfound hread) ?_
      by_cases hadmits : row.Admits password
      · have hin : (!u.isActive || !u.passwordHash.verify password) = false := by
          rw [hactive.mpr hadmits.1, hverify.mpr hadmits.2]
          rfl
        simp only [hin]
        have hfind : s.database.users.find? u.id = some row := hid ▸ hs.numbered.find?_id hrow
        have hmodify := Database.modifyUser_of_find (fun _ _ => true) (fun r => r.seenAt now) hfind
          rfl (hid ▸ hs.acceptable hrow rfl rfl)
        refine Op.Ends.changing (fun e he => by cases hmodify.symm.trans he) fun n db hdb => ?_
        obtain ⟨-, rfl⟩ := Prod.mk.inj (Except.ok.inj (hmodify.symm.trans hdb))
        have hseen := Table.put_changed (fun r : UserRow => r.seenAt now) hfind fun _ => rfl
        exact Op.ends_pure (.admitted hfound hadmits hid ⟨_, hseen, rfl⟩)
      · have hout : (!u.isActive || !u.passwordHash.verify password) = true := by
          rw [Bool.or_eq_true, Bool.not_eq_true', Bool.not_eq_true', ← Bool.not_eq_true,
            ← Bool.not_eq_true, hactive, hverify]
          exact Decidable.not_and_iff_not_or_not.mp hadmits
        simp only [hout, if_true]
        refine Op.ends_throw (.refused fun r hr => ?_)
        obtain rfl : row = r := Option.some.inj (hfound.symm.trans hr)
        exact hadmits

end Users

/-- An account that got the time of a login keeps its password. -/
theorem Store.Saw.putAccount {s t : Store} {row : UserRow} {now : Instant} (h : s.Saw row now t)
    (hs : Users.Stored s) (hnow : now.HasFourDigitYear) : s.PutAccount none row.id t := by
  obtain ⟨users, hput, rfl⟩ := h
  have hrow : row ∈ s.database.users.rows := (Table.find?_eq_some hput.find?_old).1
  refine ⟨_, _, users, s.database.logins, hput, ?_, fun r hr => ?_, rfl, rfl⟩
  · exact ⟨Users.sound_of_lastLogin (hs.sound row hrow) hnow, (fun p hp => by cases hp),
      fun _ => ⟨row, rfl, rfl⟩⟩
  · exact Users.apart_of_acceptable (hs.acceptable hrow rfl rfl) r hr

/-! ## Logging in and out -/

/-- Whether a call logs somebody in. -/
def Call.isLogin : Call → Bool
  | .logins (.logIn _ _ _ _ _) => true
  | _ => false

theorem Database.insertLogin_error {session : LoginSession} {db : Database} {f : Failure}
    (h : insertLogin session db = .error f) : f = .refused := by
  simp only [insertLogin] at h
  split at h
  · exact (Except.error.inj h).symm
  · cases h

namespace Logins

variable {now : Instant} {s : Store}

/-- Opening a login is refused, or the login is there. -/
theorem openFor_outcome (u : User) (token : String) (seconds : Int) (actor : Actor) (now : Instant)
    (s : Store) : (openFor u token seconds actor now).Ends s fun r t =>
      (∃ f, r = .error f ∧ f ≠ .badCredentials ∧ t = s)
        ∨ ∃ session, r = .ok session ∧ t.books = s.books := by
  simp only [openFor]
  cases now.addSeconds? seconds with
  | none => exact Op.ends_throw (Or.inl ⟨_, rfl, (fun h => by cases h), rfl⟩)
  | some expiresAt =>
      refine Op.Ends.changing (fun f hf => Or.inl ⟨f, rfl, ?_, rfl⟩) fun _ db hdb => ?_
      · rw [Database.insertLogin_error hf]
        exact fun h => by cases h
      · obtain ⟨-, -, rfl⟩ := Database.insertLogin_ok hdb
        exact Op.ends_pure (Or.inr ⟨_, rfl, rfl⟩)

theorem openFor_noting (u : User) (token : String) (seconds : Int) (actor : Actor) (now : Instant)
    (s : Store) : (openFor u token seconds actor now).Ends s (Noting now s) := by
  refine (openFor_outcome u token seconds actor now s).imp fun r t h => ?_
  rcases h with ⟨f, rfl, -, rfl⟩ | ⟨session, rfl, hsame⟩
  · exact .failed f
  · exact .silent hsame

/-- Ending a login never fails. -/
theorem close_outcome (token : String) (s : Store) :
    (close token).Ends s fun r t => (∃ b, r = .ok b) ∧ t.books = s.books := by
  simp only [close]
  refine Op.Ends.changing (fun f hf => by cases hf) fun n db hdb => ?_
  obtain ⟨-, rfl⟩ := Prod.mk.inj (Except.ok.inj hdb)
  exact Op.ends_pure ⟨⟨_, rfl⟩, rfl⟩

/-- A token that cannot be resolved has not yet ended a login. -/
theorem resolve_outcome (token : String) (now : Instant) (s : Store) :
    (resolve token now).Ends s fun r t => (∃ f, r = .error f ∧ t = s)
      ∨ ∃ principal, r = .ok principal ∧ t.books = s.books := by
  simp only [resolve]
  by_cases hshape : (!isTokenShaped token) = true
  · simp only [if_pos hshape]
    exact Op.ends_pure (Or.inr ⟨_, rfl, rfl⟩)
  simp only [if_neg hshape]
  refine Op.Ends.reading (Op.keeps_queryRead _) (fun f _ => Or.inl ⟨f, rfl, rfl⟩) fun found _ => ?_
  cases found with
  | none => exact Op.ends_pure (Or.inr ⟨_, rfl, rfl⟩)
  | some principal =>
      by_cases hexpired : principal.isExpired now = true
      · simp only [if_pos hexpired]
        refine (close_outcome token s).bind ?_ fun f t h => by cases h.1.choose_spec
        rintro b t ⟨-, hsame⟩
        exact Op.ends_pure (Or.inr ⟨_, rfl, hsame⟩)
      · simp only [if_neg hexpired]
        exact Op.ends_pure (Or.inr ⟨_, rfl, rfl⟩)

theorem logOut_noting (token : String) (actor : Actor) (now : Instant) (s : Store) :
    (logOut token actor now).Ends s (Noting now s) := by
  simp only [logOut]
  refine (resolve_outcome token now s).bind ?_ ?_
  · rintro principal t (⟨f, hf, -⟩ | ⟨_, hok, hsame⟩)
    · cases hf
    obtain rfl := Except.ok.inj hok
    refine (close_outcome token t).bind ?_ fun f u h => by cases h.1.choose_spec
    rintro b u ⟨-, hclosed⟩
    cases principal with
    | none => exact Op.ends_pure (.silent (hclosed.trans hsame))
    | some p => exact Op.Ends.noted (.noted (hclosed.trans hsame))
  · rintro f t (⟨_, -, rfl⟩ | ⟨_, hok, -⟩)
    · exact .failed f
    · cases hok

/-- How logging in ends: the password is rejected, and that is noted; or it is right and no login
    can be opened; or a login was opened, and that is noted. -/
inductive Attempted {α : Type} (now : Instant) (s : Store) : Except Failure α → Store → Prop where
  | rejected {e : AuditEvent} (kind : e.kind = .login) (status : e.status = .failed) :
      Attempted now s (.error .badCredentials) (s.noted e now)
  | unopened {f : Failure} {row : UserRow} {t : Store} (other : f ≠ .badCredentials)
      (saw : s.Saw row now t) : Attempted now s (.error f) t
  | opened {a : α} {row : UserRow} {t u : Store} {e : AuditEvent} (saw : s.Saw row now t)
      (same : u.books = t.books) : Attempted now s (.ok a) (u.noted e now)

theorem logIn_attempted (hs : Users.Stored s) (username password token : String) (seconds : Int)
    (actor : Actor) :
    (logIn username password token seconds actor now).Ends s (Attempted now s) := by
  simp only [logIn]
  refine (Users.authenticate_entry hs _ password now).attempt.bind ?_ ?_
  · rintro outcome t ⟨_, houtcome, hentry⟩
    obtain rfl := Except.ok.inj houtcome
    cases hentry with
    | refused => exact Op.Ends.noting (Op.ends_throw (.rejected rfl rfl))
    | admitted found admits id_eq saw =>
        refine (openFor_outcome _ token seconds actor now _).bind ?_ ?_
        · rintro session u (⟨f, hf, -⟩ | ⟨_, -, hsame⟩)
          · cases hf
          · exact Op.Ends.noting (Op.ends_pure (.opened saw hsame))
        · rintro f u (⟨_, hf, hother, rfl⟩ | ⟨_, hok, -⟩)
          · obtain rfl := Except.error.inj hf
            exact .unopened hother saw
          · cases hok
  · rintro f t ⟨_, hfailed, -⟩
    cases hfailed

end Logins

end RobotMaze
