import RobotMaze.Proofs.Login.Audited
import RobotMaze.Proofs.Web.Handling

/-! # Rejected logins

    Whoever is turned away at the login page is not told why, and neither is
    anybody who looks at the store afterwards:

    * `Users.Rejects` — the reasons why nobody is let in under a name and a
      password, and `answer_authenticate_iff` that these are all;
    * `run_logIn_of_rejects` — a rejected login records that and does nothing else;
    * `answer_of_rejected_login` — two stores give one answer and get one entry,
      each for a reason of its own. -/

namespace RobotMaze

open Time (Instant)

namespace Users

/-- Why nobody is let in under a name and a password. -/
inductive Rejects (s : Store) (username password : String) : Prop where
  | unknown (missing : s.database.userByName username = none)
  | inactive {row : UserRow} {u : User} (found : s.database.userByName username = some row)
      (read : row.read = .ok u) (inactive : u.isActive = false)
  | wrong {row : UserRow} {u : User} {hashing : Hashing} {key : List UInt8}
      (found : s.database.userByName username = some row) (read : row.read = .ok u)
      (hash : u.passwordHash = .ofKey hashing key) (wrong : passwordKey password ≠ key)
  | unusable {row : UserRow} {u : User} {text : String}
      (found : s.database.userByName username = some row) (read : row.read = .ok u)
      (hash : u.passwordHash = .unusable text)

variable {s : Store} {username password : String} {now : Instant}

/-- The password of an account does not fit. -/
theorem rejects_of_verify {row : UserRow} {u : User}
    (hfound : s.database.userByName username = some row) (hread : row.read = .ok u)
    (hverify : u.passwordHash.verify password = false) : Rejects s username password := by
  cases hhash : u.passwordHash with
  | ofKey hashing key =>
      rw [hhash] at hverify
      exact .wrong hfound hread hhash (by simpa [PasswordHash.verify] using hverify)
  | unusable text => exact .unusable hfound hread hhash

/-- Whoever is rejected is told so, and no more. -/
theorem run_authenticate_of_rejects (h : Rejects s username password) (now : Instant) :
    (authenticate username password now).run s = (.error .badCredentials, s) := by
  suffices hends : (authenticate username password now).Ends s fun x t =>
      x = .error .badCredentials ∧ t = s from Prod.ext hends.1 hends.2
  -- an account that is found is turned away by one of two tests
  have haccount : ∀ {row u}, s.database.userByName username = some row → row.read = .ok u →
      (!u.isActive || !u.passwordHash.verify password) = true →
      (authenticate username password now).Ends s fun x t =>
        x = .error .badCredentials ∧ t = s := by
    intro row u hfound hread hbad
    simp only [authenticate]
    refine Op.Ends.reading_of_answer (keeps_find username) (find_answer hfound hread) ?_
    simp only [hbad, if_true]
    exact Op.ends_throw ⟨rfl, rfl⟩
  cases h with
  | unknown hmissing =>
      simp only [authenticate]
      refine Op.Ends.reading_of_answer (keeps_find username) (find_answer_none hmissing) ?_
      exact Op.ends_throw ⟨rfl, rfl⟩
  | inactive hfound hread hinactive => exact haccount hfound hread (by simp [hinactive])
  | wrong hfound hread hhash hwrong =>
      exact haccount hfound hread (by simp [hhash, PasswordHash.verify, hwrong])
  | unusable hfound hread hhash =>
      exact haccount hfound hread (by simp [hhash, PasswordHash.verify])

/-- There are no other reasons. -/
theorem answer_authenticate_iff (now : Instant) : (authenticate username password now).answer s
    = .error .badCredentials ↔ Rejects s username password := by
  refine ⟨fun h => ?_, fun h => congrArg Prod.fst (run_authenticate_of_rejects h now)⟩
  suffices hends : (authenticate username password now).Ends s fun x _ =>
      x = .error .badCredentials → Rejects s username password from hends h
  clear h
  simp only [authenticate]
  have hanswer := answer_find username s
  cases hfound : s.database.userByName username with
  | none => exact (fun _ => .unknown hfound)
  | some row =>
      cases hread : row.read with
      | error f =>
          -- an account that cannot be read is a failure of another kind
          obtain ⟨v, rfl⟩ := row.read_error f hread
          simp only [hfound, hread, Except.map] at hanswer
          refine Op.Ends.reading (keeps_find username) (fun e he hbad => ?_) fun found hok => ?_
          · cases hbad
            cases hanswer.symm.trans he
          · cases hanswer.symm.trans hok
      | ok u =>
          simp only [hfound, hread, Except.map] at hanswer
          refine Op.Ends.reading_of_answer (keeps_find username) hanswer ?_
          by_cases hbad : (!u.isActive || !u.passwordHash.verify password) = true
          · simp only [hbad, if_true]
            refine Op.ends_throw fun _ => ?_
            rcases Bool.or_eq_true_iff.mp hbad with hinactive | hverify
            · exact .inactive hfound hread (by simpa using hinactive)
            · exact rejects_of_verify hfound hread (by simpa using hverify)
          · simp only [hbad]
            refine Op.Ends.changing (fun e he hrefused => ?_) fun n db _ => Op.ends_pure fun h => ?_
            · cases Database.modifyUser_error he
              cases hrefused
            · cases h

end Users

/-! ## What a rejected login leaves behind -/

namespace Logins

theorem run_logIn_of_rejects {s : Store} {username password : String}
    (h : Users.Rejects s (Text.trim username) password) (token : String) (seconds : Int)
    (actor : Actor) (now : Instant) :
    (logIn username password token seconds actor now).run s
      = (.error .badCredentials,
          s.noted (rejection username actor.ipAddress actor.userAgent) now) := by
  suffices hends : (logIn username password token seconds actor now).Ends s fun x t =>
      x = .error .badCredentials
        ∧ t = s.noted (rejection username actor.ipAddress actor.userAgent) now from
    Prod.ext hends.1 hends.2
  have hauthenticate : (Users.authenticate (Text.trim username) password now).attempt.Ends s
      fun x t => x = .ok (.error .badCredentials) ∧ t = s := by
    simp only [Op.Ends, Op.answer]
    rw [Op.run_attempt, Op.answer, Users.run_authenticate_of_rejects h]
    exact ⟨rfl, rfl⟩
  simp only [logIn]
  refine hauthenticate.bind ?_ fun e t hfailed => ?_
  · rintro _ t ⟨hok, rfl⟩
    obtain rfl := Except.ok.inj hok
    simp only [failed_event_eq]
    refine Op.Ends.noting ?_
    exact Op.ends_throw ⟨rfl, rfl⟩
  · cases hfailed.1

end Logins

/-- All that has happened to a store is that an event was noted: its entry was added to the audit
    log, or none was, since all ids of entries have been given out (`AuditLog.Noted.full`). -/
structure Store.OnlyNoted (e : AuditEvent) (now : Instant) (s t : Store) : Prop where
  tracks : t.database.tracks = s.database.tracks
  users : t.database.users = s.database.users
  sessions : t.database.sessions = s.database.sessions
  logins : t.database.logins = s.database.logins
  audit : AuditLog.Noted e now s.database.audit t.database.audit

theorem Store.onlyNoted (e : AuditEvent) (now : Instant) (s : Store) :
    s.OnlyNoted e now (s.noted e now) where
  tracks := Store.noted_tracks
  users := Store.noted_users
  sessions := Store.noted_sessions
  logins := noted_of_beside (fun s => s.database.logins) ⟨fun _ _ => rfl, fun _ _ => rfl⟩ s e now
  audit := s.noted_audit e now

namespace Web

/-- The name and the password that a request to the login page brings. -/
structure Request.LogsIn (r : Request) (username password : String) : Prop where
  route : Route.ofPath? r.path = some (.entrance .login)
  method : r.method = .post
  form : ∃ form, r.form = .ok form ∧ Entrance.formText form "username" = .ok username
    ∧ Entrance.formText form "password" = .ok password

variable {c : Context} {r : Request} {username password : String} {s s' : Store}

theorem run_answer_of_rejects (hr : r.LogsIn username password)
    (hs : Users.Rejects s (Text.trim username) password) :
    (answer c r).run s = (.redirect "/login?error=true",
      s.noted (Logins.rejection username r.client.ipAddress r.client.userAgent) c.now) := by
  obtain ⟨form, hform, husername, hpassword⟩ := hr.form
  have hhandler : handlerFor? EntranceRoute.login.handlers r.method = some Entrance.logIn := by
    rw [hr.method]
    rfl
  have hmethod : r.method ≠ .head := by
    rw [hr.method]
    decide
  have hlogIn := Logins.run_logIn_of_rejects hs c.token c.loginSeconds (r.client.actor none) c.now
  rw [run_answer_of_entrance hr.route hmethod hhandler, run_respond]
  simp only [Entrance.logIn]
  rw [run_require_bind hform, run_require_bind husername, run_require_bind hpassword,
    run_attempt_bind, Op.answer, hlogIn]
  rfl

/-- Two stores in which a login is rejected, each for a reason of its own, give the same response.
    In both of them nothing has changed afterwards but that the same event was noted: its entry was
    added to the audit log, under its own id, unless no id is left there
    (`AuditLog.Noted.full`). -/
theorem answer_of_rejected_login (hr : r.LogsIn username password)
    (hs : Users.Rejects s (Text.trim username) password)
    (hs' : Users.Rejects s' (Text.trim username) password) :
    ∃ response t t' e, (answer c r).run s = (response, t) ∧ (answer c r).run s' = (response, t')
      ∧ e = Logins.rejection username r.client.ipAddress r.client.userAgent
      ∧ s.OnlyNoted e c.now t ∧ s'.OnlyNoted e c.now t' :=
  ⟨_, _, _, _, run_answer_of_rejects hr hs, run_answer_of_rejects hr hs', rfl,
    Store.onlyNoted _ _ _, Store.onlyNoted _ _ _⟩

/-- Someone logs in with blanks around the name. -/
def guess : Request :=
  { method := .post
    path := "/login"
    fields := [("Content-Type", "application/x-www-form-urlencoded"), ("User-Agent", "curl")]
    body := "username=+ada+&password=baroness" }

/-- An account of that name is there, with another password. -/
def adaOnly : List Event :=
  [⟨⟨1772366400, 0⟩,
    .users (.create ⟨"ada", "ada@maze.example", "countess", none, .admin, true⟩ ⟨4, [17]⟩ {})⟩]

/-- The response is the same where there is no such account. -/
theorem answer_of_rejected_login_guess :
    let c : Context := { explanations := default, hashing := ⟨4, [17]⟩, now := ⟨1772370000, 0⟩,
                         sessionId := "", token := "", number := 0 }
    let s := (Store.empty .disabled).after adaOnly
    let s' := Store.empty .disabled
    guess.LogsIn " ada " "baroness"
      ∧ Users.Rejects s (Text.trim " ada ") "baroness"
      ∧ Users.Rejects s' (Text.trim " ada ") "baroness"
      ∧ ∃ response t t' e, (answer c guess).run s = (response, t)
        ∧ (answer c guess).run s' = (response, t')
        ∧ e = Logins.rejection " ada " guess.client.ipAddress guess.client.userAgent
        ∧ s.OnlyNoted e c.now t ∧ s'.OnlyNoted e c.now t' := by
  intro c s s'
  have hguess : guess.LogsIn " ada " "baroness" := by
    refine ⟨by decide +kernel, rfl, [("username", " ada "), ("password", "baroness")], ?_⟩
    exact ⟨by decide +kernel, by decide +kernel, by decide +kernel⟩
  have hs : Users.Rejects s (Text.trim " ada ") "baroness" :=
    (Users.answer_authenticate_iff c.now).mp (by decide +kernel)
  have hs' : Users.Rejects s' (Text.trim " ada ") "baroness" :=
    (Users.answer_authenticate_iff c.now).mp (by decide +kernel)
  exact ⟨hguess, hs, hs', answer_of_rejected_login hguess hs hs'⟩

end Web

end RobotMaze
