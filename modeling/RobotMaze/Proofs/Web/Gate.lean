import RobotMaze.Proofs.Service.Calls
import RobotMaze.Proofs.Store.Table
import RobotMaze.Proofs.Time.Order
import RobotMaze.Web.Site

/-! # The gate of the back office

    A request without a login gets the same answer whatever the store holds, and
    nothing inside the back office is reached:

    * `Request.Admitted`, `Request.Illegible` — the login that a request presents
      is in force, or its expiry cannot be read;
    * `run_resolve` — what becomes of the token that is presented;
    * `answer_of_outside` — all who are neither admitted nor illegible are turned
      away, and an expired login is all that may be gone afterwards. -/

namespace RobotMaze

open Time (Instant)

/-- The login of a token, if the token has the form of one and its user is active. -/
def Database.heldLogin? (token : String) (db : Database) : Option LoginRow :=
  (db.logins.find? fun r => r.token == token).filter fun login =>
    isTokenShaped token && (db.users.find? login.userId).any userIsActive

/-- The store without the logins of a token. -/
def Store.withoutLogins (s : Store) (token : String) : Store :=
  { s with database := { s.database with
      logins := s.database.logins.filter fun r => !(r.token == token) } }

namespace Database

variable {token : String} {db : Database}

/-- A token that is looked up without being held by anybody has no principal. -/
theorem principalOf_of_none (hshape : isTokenShaped token = true)
    (h : db.heldLogin? token = none) : db.principalOf token = .ok none := by
  simp only [heldLogin?] at h
  simp only [principalOf]
  cases hlogin : db.logins.find? fun r => r.token == token with
  | none => rfl
  | some login =>
      rw [hlogin] at h
      cases huser : db.users.find? login.userId with
      | none => simp only [huser]
      | some user =>
          have hinactive : ¬ (user.isActive == 1) = true := by
            intro hactive
            simp [hshape, huser, userIsActive, hactive] at h
          simp only [huser]
          rw [if_neg hinactive]

/-- A token that is held stands for its user until the expiry that was stored. -/
theorem principalOf_of_some {login : LoginRow} (h : db.heldLogin? token = some login) :
    isTokenShaped token = true ∧ ∃ user : UserRow, db.principalOf token
      = (readTime login.expiresAt).map fun expiry =>
          some ⟨user.id, user.username, user.fullName, user.role, expiry⟩ := by
  simp only [heldLogin?] at h
  obtain ⟨hlogin, htest⟩ := Option.filter_eq_some_iff.mp h
  obtain ⟨hshape, hactive⟩ := Bool.and_eq_true_iff.mp htest
  cases huser : db.users.find? login.userId with
  | none =>
      rw [huser] at hactive
      cases hactive
  | some user =>
      rw [huser] at hactive
      refine ⟨hshape, user, ?_⟩
      simp only [principalOf, hlogin, huser]
      rw [if_pos (show (user.isActive == 1) = true from hactive)]
      cases readTime login.expiresAt <;> rfl

end Database

/-! ## What becomes of a token -/

namespace Logins

variable {token : String} {s : Store}

/-- A token that nobody holds is not resolved. -/
theorem run_resolve_of_none (h : s.database.heldLogin? token = none) (now : Instant) :
    (resolve token now).run s = (.ok none, s) := by
  simp only [resolve]
  by_cases hshape : isTokenShaped token = true
  · rw [if_neg (by simp [hshape])]
    refine (Op.run_bind _ _ _).trans ?_
    have hanswer : (Op.queryRead (Database.principalOf token)).answer s = .ok none :=
      Database.principalOf_of_none hshape h
    rw [hanswer]
    rfl
  · rw [if_pos (by simp [hshape])]
    rfl

/-- A token that is held is resolved until it expires; then its login is removed.  Where its expiry
    cannot be read, that is the answer. -/
theorem run_resolve_of_some {login : LoginRow} (h : s.database.heldLogin? token = some login)
    (now : Instant) : ∃ user : UserRow,
      (resolve token now).run s = match readTime login.expiresAt with
      | .error f => (.error f, s)
      | .ok expiry =>
          if expiry ≤ now then (.ok none, s.withoutLogins token)
          else (.ok (some ⟨user.id, user.username, user.fullName, user.role, expiry⟩), s) := by
  obtain ⟨hshape, user, hprincipal⟩ := Database.principalOf_of_some h
  refine ⟨user, ?_⟩
  simp only [resolve]
  rw [if_neg (by simp [hshape])]
  refine (Op.run_bind _ _ _).trans ?_
  have hanswer : (Op.queryRead (Database.principalOf token)).answer s = _ := hprincipal
  rw [hanswer]
  cases readTime login.expiresAt with
  | error f => rfl
  | ok expiry =>
      simp only [Except.map, Principal.isExpired]
      by_cases hexpired : expiry ≤ now
      · simp only [hexpired, decide_true, if_true]
        rfl
      · simp only [hexpired, decide_false, if_false]
        rfl

end Logins

namespace Web

/-! ## The gate -/

/-- The login that a request presents is in force. -/
def Request.Admitted (c : Context) (r : Request) (db : Database) : Prop :=
  ∃ token ∈ r.token? c.cookieName, ∃ login ∈ db.heldLogin? token,
    ∃ expiry ∈ (readTime login.expiresAt).toOption, c.now < expiry

/-- The login that a request presents is held by an active user, and its expiry cannot be read. -/
def Request.Illegible (c : Context) (r : Request) (db : Database) : Prop :=
  ∃ token ∈ r.token? c.cookieName, ∃ login ∈ db.heldLogin? token,
    (readTime login.expiresAt).toOption = none

/-- The request presents the token of an active user's login that has expired. -/
def Request.Expired (c : Context) (r : Request) (db : Database) (token : String) : Prop :=
  token ∈ r.token? c.cookieName ∧ ∃ login ∈ db.heldLogin? token,
    ∃ expiry ∈ (readTime login.expiresAt).toOption, expiry ≤ c.now

/-- Nobody is let in for a request: the login that it presents is not in force, and it is none whose
    expiry cannot be read. -/
structure Request.Outside (c : Context) (r : Request) (db : Database) : Prop where
  not_admitted : ¬ r.Admitted c db
  legible : ¬ r.Illegible c db

namespace Request

variable {c : Context} {r : Request} {db : Database} {token : String}

/-- A token that nobody holds lets nobody in. -/
theorem outside_of_noLogin (htoken : token ∈ r.token? c.cookieName)
    (hlogin : db.heldLogin? token = none) : r.Outside c db := by
  constructor
  · rintro ⟨other, hother, login, hheld, -⟩
    obtain rfl : token = other := Option.some.inj (htoken.symm.trans hother)
    exact nomatch hlogin.symm.trans hheld
  · rintro ⟨other, hother, login, hheld, -⟩
    obtain rfl : token = other := Option.some.inj (htoken.symm.trans hother)
    exact nomatch hlogin.symm.trans hheld

/-- Nor does one whose login has expired. -/
theorem Expired.outside (h : r.Expired c db token) : r.Outside c db := by
  obtain ⟨htoken, login, hlogin, expiry, hexpiry, hexpired⟩ := h
  constructor
  · rintro ⟨other, hother, login', hlogin', expiry', hexpiry', hlater⟩
    obtain rfl : token = other := Option.some.inj (htoken.symm.trans hother)
    obtain rfl : login = login' := Option.some.inj (hlogin.symm.trans hlogin')
    obtain rfl : expiry = expiry' := Option.some.inj (hexpiry.symm.trans hexpiry')
    exact Instant.not_le.mpr hlater hexpired
  · rintro ⟨other, hother, login', hlogin', hnone⟩
    obtain rfl : token = other := Option.some.inj (htoken.symm.trans hother)
    obtain rfl : login = login' := Option.some.inj (hlogin.symm.trans hlogin')
    exact nomatch hnone.symm.trans hexpiry

/-- Nobody is let in for a login whose expiry cannot be read. -/
theorem Illegible.not_admitted (h : r.Illegible c db) : ¬ r.Admitted c db := by
  obtain ⟨token, htoken, login, hlogin, hnone⟩ := h
  rintro ⟨other, hother, login', hlogin', expiry, hexpiry, -⟩
  obtain rfl : token = other := Option.some.inj (htoken.symm.trans hother)
  obtain rfl : login = login' := Option.some.inj (hlogin.symm.trans hlogin')
  exact nomatch hnone.symm.trans hexpiry

end Request

/-- What someone outside is answered: programs are refused, people are sent to the login page. -/
def outsideAnswer (path : String) : Response :=
  if path.startsWith "/api/" then
    ⟨401, [("content-type", "application/json")],
      .json (.object [("error", .string "Authentication required")])⟩
  else ⟨303, [("location", "/login")], .empty⟩

theorem turnAway_eq (path : String) : turnAway path = outsideAnswer path := by
  simp only [turnAway, outsideAnswer]
  split <;> rfl

section Run

variable {c : Context} {r : Request} {inside : Principal → Steps Store Response} {s t : Store}
  {token : String}

theorem run_gate_of_noToken (h : r.token? c.cookieName = none) :
    (gate c r inside).run s = (outsideAnswer r.path, s) := by
  rw [← turnAway_eq]
  simp only [gate, h]
  rfl

/-- What is not resolved is turned away with the store that the attempt has left. -/
theorem run_gate_of_unresolved (h : r.token? c.cookieName = some token)
    (hresolve : (Logins.resolve token c.now).run s = (.ok none, t)) :
    (gate c r inside).run s = (outsideAnswer r.path, t) := by
  rw [← turnAway_eq]
  simp only [gate, h]
  refine (Steps.run_bind _ _ _).trans ?_
  rw [show Steps.run (ExceptT.run (Logins.resolve token c.now)) s = _ from hresolve]
  rfl

theorem run_gate_of_failed (h : r.token? c.cookieName = some token) {f : Failure}
    (hresolve : (Logins.resolve token c.now).run s = (.error f, t)) :
    (gate c r inside).run s = ((Refusal.ofFailure f).response, t) := by
  simp only [gate, h]
  refine (Steps.run_bind _ _ _).trans ?_
  rw [show Steps.run (ExceptT.run (Logins.resolve token c.now)) s = _ from hresolve]
  rfl

/-- A request that is neither admitted nor illegible is turned away before anything inside is
    reached.  Nothing changes but that an expired login is removed. -/
theorem run_gate_of_outside (hout : ¬ r.Admitted c s.database)
    (hlegible : ¬ r.Illegible c s.database) :
    ∃ t, (∀ inside, (gate c r inside).run s = (outsideAnswer r.path, t))
      ∧ (t = s ∨ ∃ token, r.Expired c s.database token ∧ t = s.withoutLogins token) := by
  cases htoken : r.token? c.cookieName with
  | none => exact ⟨s, fun _ => run_gate_of_noToken htoken, Or.inl rfl⟩
  | some token =>
      cases hlogin : s.database.heldLogin? token with
      | none =>
          have hresolve := Logins.run_resolve_of_none hlogin c.now
          exact ⟨s, fun _ => run_gate_of_unresolved htoken hresolve, Or.inl rfl⟩
      | some login =>
          obtain ⟨user, hresolve⟩ := Logins.run_resolve_of_some hlogin c.now
          cases hexpiry : readTime login.expiresAt with
          | error f =>
              exact absurd ⟨token, htoken, login, hlogin, by rw [hexpiry]; rfl⟩ hlegible
          | ok expiry =>
              have hread : (readTime login.expiresAt).toOption = some expiry := by rw [hexpiry]; rfl
              by_cases hexpired : expiry ≤ c.now
              case neg =>
                have hlater : c.now < expiry := Instant.not_le.mp hexpired
                exact absurd ⟨token, htoken, login, hlogin, expiry, hread, hlater⟩ hout
              rw [hexpiry] at hresolve
              simp only [if_pos hexpired] at hresolve
              refine ⟨s.withoutLogins token, fun _ => run_gate_of_unresolved htoken hresolve, ?_⟩
              exact Or.inr ⟨token, ⟨htoken, login, hlogin, expiry, hread, hexpired⟩, rfl⟩

/-- Where the expiry cannot be read, the failure is the answer, and nothing changes. -/
theorem run_gate_of_illegible (h : r.Illegible c s.database) :
    (gate c r inside).run s = (Refusal.internal.response, s) := by
  obtain ⟨token, htoken, login, hlogin, hread⟩ := h
  obtain ⟨user, hresolve⟩ := Logins.run_resolve_of_some hlogin c.now
  cases hexpiry : readTime login.expiresAt with
  | ok expiry =>
      rw [hexpiry] at hread
      cases hread
  | error f =>
      obtain ⟨v, rfl⟩ := ReadsOrUnreadable.readTime login.expiresAt f hexpiry
      rw [hexpiry] at hresolve
      exact run_gate_of_failed htoken hresolve

end Run

/-! ## Requests -/

/-- The response as an answer to a method: whoever asks for the head gets no body. -/
def Response.toMethod (a : Response) (m : Method) : Response :=
  if m = .head then { a with body := .empty } else a

theorem run_answer {c : Context} {r : Request} {route : OfficeRoute}
    (hroute : Route.ofPath? r.path = some (.office route)) {s t : Store} {a : Response}
    (hgate : (officeAnswer route c r).run s = (a, t)) :
    (answer c r).run s = (a.toMethod r.method, t) := by
  simp only [answer, hroute]
  refine (Steps.run_bind _ _ _).trans ?_
  rw [show Steps.run (Route.answer c r (.office route)) s = _ from hgate]
  rfl

/-- Where the expiry of a login cannot be read, that is what the client gets to know, and nothing
    changes. -/
theorem answer_of_illegible {c : Context} {r : Request} {route : OfficeRoute}
    (hroute : Route.ofPath? r.path = some (.office route)) {s : Store}
    (h : r.Illegible c s.database) :
    (answer c r).run s = (Refusal.internal.response.toMethod r.method, s) :=
  run_answer hroute (run_gate_of_illegible h)

/-- Whoever is outside gets an answer that depends on the request only: two stores, whatever they
    hold, give the same one.  Nothing inside is reached, and the store stays as it is, apart from
    the presented login if it has expired. -/
theorem answer_of_outside {c : Context} {r : Request} {route : OfficeRoute}
    (hroute : Route.ofPath? r.path = some (.office route)) {s s' : Store}
    (hs : r.Outside c s.database) (hs' : r.Outside c s'.database) :
    ((answer c r).run s).1 = ((answer c r).run s').1
      ∧ ∃ t, (∀ inside, (gate c r inside).run s = (outsideAnswer r.path, t))
        ∧ (answer c r).run s = ((outsideAnswer r.path).toMethod r.method, t)
        ∧ (t = s ∨ ∃ token, r.Expired c s.database token ∧ t = s.withoutLogins token) := by
  obtain ⟨t, hgate, hstore⟩ := run_gate_of_outside hs.not_admitted hs.legible
  obtain ⟨t', hgate', -⟩ := run_gate_of_outside hs'.not_admitted hs'.legible
  have hanswer := run_answer hroute (hgate fun _ => _)
  have hanswer' := run_answer hroute (hgate' fun _ => _)
  exact ⟨by rw [hanswer, hanswer'], t, hgate, hanswer, hstore⟩

/-- A token. -/
def someToken : String := "AAAAAAAAAAAAAAAAAAAAAAAAAAAAAAAAAAAAAAAAAAA"

/-- An administrator logs in for a number of seconds, which may be negative. -/
def loginFor (seconds : Int) : List Event :=
  [⟨⟨1773144000, 0⟩, .users (.create
      ⟨"ada", "ada@maze.example", "countess", none, .admin, true⟩ ⟨4, [17]⟩ {})⟩,
    ⟨⟨1773144000, 0⟩, .logins (.logIn "ada" "countess" someToken seconds {})⟩]

/-- A request to change a track with a broken id and a broken body.  Its cookies come in several
    fields. -/
def brokenChange : Request :=
  { method := .put
    path := "/api/admin/tracks/first"
    fields := [("Cookie", "theme=dark; GFD_SESSION="), ("cookie", "GFD_SESSION=" ++ someToken)]
    body := "\x7b" }

/-- An hour later the login is over, and the request is turned away as from an empty store. -/
theorem answer_of_outside_expired :
    let c : Context := { explanations := default, hashing := ⟨4, [17]⟩, now := ⟨1773147600, 0⟩,
                         sessionId := "", token := "", number := 0 }
    let s := (Store.empty .disabled).after (loginFor 3600)
    Route.ofPath? brokenChange.path = some (.office (.tracks (.one "first")))
      ∧ brokenChange.Outside c s.database ∧ brokenChange.Outside c {}
      ∧ ((answer c brokenChange).run s).1 = ((answer c brokenChange).run (.empty .disabled)).1
      ∧ ∃ t, (answer c brokenChange).run s = (outsideAnswer "/api/admin/tracks/first", t)
        ∧ (t = s
          ∨ ∃ token, brokenChange.Expired c s.database token ∧ t = s.withoutLogins token) := by
  intro c s
  have hroute : Route.ofPath? brokenChange.path = some (.office (.tracks (.one "first"))) := by
    decide +kernel
  have htoken : someToken ∈ brokenChange.token? c.cookieName := by decide +kernel
  have hexpired : brokenChange.Expired c s.database someToken := ⟨htoken, by decide +kernel⟩
  have hempty : brokenChange.Outside c (Store.empty .disabled).database :=
    Request.outside_of_noLogin htoken rfl
  obtain ⟨hsame, t, -, hanswer, hstore⟩ := answer_of_outside hroute hexpired.outside hempty
  exact ⟨hroute, hexpired.outside, hempty, hsame, t, hanswer, hstore⟩

/-- The list of tracks is asked for with the token of a login. -/
def trackListing : Request :=
  { method := .get
    path := "/api/admin/tracks"
    fields := [("cookie", "GFD_SESSION=" ++ someToken)] }

/-- A login for less than no time, whose expiry lies before the year 0 and is stored with a sign. -/
def ancientLogin : LoginRow :=
  { token := someToken
    userId := 1
    createdAt := "2026-03-10T12:00:00.000Z"
    expiresAt := "-0002-02-09T18:13:20.000Z"
    ipAddress := none
    userAgent := none }

/-- The holder of a login that expired before the year 0 is not turned away: the stored expiry
    cannot be read, and the answer is an error.  Whoever asks for the head is turned away without a
    body. -/
theorem answer_ancientLogin :
    let c : Context := { explanations := default, hashing := ⟨4, [17]⟩, now := ⟨1773144000, 0⟩,
                         sessionId := "", token := "", number := 0 }
    let s := (Store.empty .disabled).after (loginFor (-64000000000))
    let head : Request := { trackListing with method := .head, fields := [] }
    Route.ofPath? trackListing.path = some (.office (.tracks .listing))
      ∧ ¬ trackListing.Admitted c s.database
      ∧ ((answer c trackListing).run s).1.status = 500
      ∧ (outsideAnswer trackListing.path).status = 401
      ∧ ((answer c head).run s).1 = { outsideAnswer head.path with body := .empty } := by
  intro c s head
  have hroute : Route.ofPath? trackListing.path = some (.office (.tracks .listing)) := by
    decide +kernel
  have htoken : someToken ∈ trackListing.token? c.cookieName := by decide +kernel
  have hlogin : ancientLogin ∈ s.database.heldLogin? someToken := by decide +kernel
  have hillegible : trackListing.Illegible c s.database :=
    ⟨someToken, htoken, ancientLogin, hlogin, by decide +kernel⟩
  have hgate : (officeAnswer (.tracks .listing) c head).run s = _ := run_gate_of_noToken rfl
  have herror := answer_of_illegible hroute hillegible
  exact ⟨hroute, hillegible.not_admitted, congrArg (fun x => x.1.status) herror, by decide +kernel,
    congrArg Prod.fst (run_answer (r := head) hroute hgate)⟩

end Web

end RobotMaze
