import RobotMaze.Proofs.Login.Endings
import RobotMaze.Proofs.Login.Opening
import RobotMaze.Proofs.Login.Cookie

/-! # The life of a login

    Whoever logs in has a principal from then on, until the login is closed or
    expires, whatever else is called in between:

    * `Store.ClosedIn` — a run in which a login is closed;
    * `LoginRow.Stands.after_cases` — what a run makes of a standing login, by
      induction on its calls;
    * `resolve_opened` — when the token of a login is resolved, and to what. -/

namespace RobotMaze

open Time (Instant)

/-- Some call of a run closes a login of a user. -/
def Store.ClosedIn (s : Store) (token : String) (userId : Int) (run : List Event) : Prop :=
  ∃ early e late, run = early ++ e :: late ∧ e.Closes token userId (s.after early)

theorem Store.closedIn_cons {s : Store} {token : String} {userId : Int} {e : Event}
    {rest : List Event} : s.ClosedIn token userId (e :: rest)
      ↔ e.Closes token userId s ∨ (s.next e).ClosedIn token userId rest := by
  constructor
  · rintro ⟨early, f, late, hrun, hcloses⟩
    cases early with
    | nil =>
        obtain ⟨rfl, rfl⟩ := List.cons.inj hrun
        exact Or.inl hcloses
    | cons first early =>
        obtain ⟨rfl, rfl⟩ := List.cons.inj hrun
        exact Or.inr ⟨early, f, late, rfl, hcloses⟩
  · rintro (hcloses | ⟨early, f, late, rfl, hcloses⟩)
    · exact ⟨[], e, rest, rfl, hcloses⟩
    · exact ⟨e :: early, f, late, rfl, hcloses⟩

/-- After any run a login either still stands, and no call has closed it, or it is gone because one
    has or because it had expired by then. -/
theorem LoginRow.Stands.after_cases {r : LoginRow} {s : Store} (h : r.Stands s.database)
    (hshape : isTokenShaped r.token = true) {expiresAt : Instant}
    (hrow : r.expiresAt = expiresAt.stamp) (hexpiry : expiresAt.IsReading) {run : List Event}
    (hreadings : ∀ e ∈ run, e.now.IsReading) (hfresh : ∀ e ∈ run, ¬ e.Issues r.token) :
    (r.Stands (s.after run).database ∧ ¬ s.ClosedIn r.token r.userId run)
      ∨ ((s.after run).database.loginsOf r.token = []
        ∧ (s.ClosedIn r.token r.userId run ∨ ∃ e ∈ run, expiresAt.truncate ≤ e.now)) := by
  induction run generalizing s with
  | nil =>
      refine Or.inl ⟨h, ?_⟩
      rintro ⟨early, e, late, hrun, -⟩
      cases early <;> cases hrun
  | cons e rest ih =>
      have hrest : ∀ f ∈ rest, ¬ f.Issues r.token := fun f hf =>
        hfresh f (List.mem_cons_of_mem e hf)
      show (r.Stands ((s.next e).after rest).database ∧ _) ∨ _
      rw [Store.closedIn_cons]
      rcases h.next_cases hshape hrow hexpiry (hreadings e List.mem_cons_self)
        (hfresh e List.mem_cons_self) with ⟨hstands, hopen⟩ | ⟨hgone, hreason⟩
      · rcases ih hstands (fun f hf => hreadings f (List.mem_cons_of_mem e hf)) hrest with
          ⟨hlast, hnever⟩ | ⟨hlast, hclosed | ⟨f, hf, hexpired⟩⟩
        · exact Or.inl ⟨hlast, not_or.mpr ⟨hopen, hnever⟩⟩
        · exact Or.inr ⟨hlast, Or.inl (Or.inr hclosed)⟩
        · exact Or.inr ⟨hlast, Or.inr ⟨f, List.mem_cons_of_mem e hf, hexpired⟩⟩
      · -- what is gone stays away, since its token is not given out again
        have hlast : ((s.next e).after rest).database.loginsOf r.token = [] :=
          Store.after_upholds (p := noLogin r.token) hgone fun f hf => upholds_noLogin (hrest f hf)
        refine Or.inr ⟨hlast, ?_⟩
        rcases hreason with hclosed | hexpired
        · exact Or.inl (Or.inl hclosed)
        · exact Or.inr ⟨e, List.mem_cons_self, hexpired⟩

namespace Logins

/-- A token that was given out is resolved, at any later time, just if its login has not been closed
    since and has not expired at the millisecond; and then to its user as of that time.  So no
    purge and no failed lookup in between has removed a login that would still be resolved. -/
theorem resolve_opened (trail : Trail) (before : List Event) (username password : String)
    (bytes : List UInt8) (seconds : Int) (actor : Actor) (now : Instant) (u : User)
    (session : LoginSession) (run : List Event) (later : Instant)
    (hbytes : bytes.length = tokenBytes)
    (hlogin : (logIn username password (loginToken bytes) seconds actor now).answer
      ((Store.empty trail).after before) = .ok (u, session))
    (hfresh : ∀ e ∈ run, ¬ e.Issues (loginToken bytes))
    (hclock : ∀ e ∈ run, e.now ≤ later) (hnow : now.IsReading)
    (hreadings : ∀ e ∈ run, e.now.IsReading) (hexpiry : session.expiresAt.HasFourDigitYear) :
    let opened := ((logIn username password (loginToken bytes) seconds actor now).run
      ((Store.empty trail).after before)).2
    now.addSeconds? seconds = some session.expiresAt
      ∧ ∃ answer, (resolve (loginToken bytes) later).answer (opened.after run) = .ok answer
        ∧ (answer.isSome ↔ ¬ opened.ClosedIn (loginToken bytes) u.id run
          ∧ later < session.expiresAt.truncate)
        ∧ ∀ p ∈ answer, ∃ row, (opened.after run).database.users.find? u.id = some row
          ∧ p = ⟨u.id, row.username, row.fullName, row.role, session.expiresAt.truncate⟩ := by
  intro opened
  obtain ⟨hstands, htoken, huser, hexpires⟩ := logIn_ok (flagged_after trail before) hlogin
  have hreading : session.expiresAt.IsReading :=
    ⟨hexpiry, (Instant.nano_addSeconds? hexpires).symm ▸ hnow.2⟩
  have hread : readTime session.row.expiresAt = .ok session.expiresAt.truncate := by
    show readTime session.expiresAt.stamp = _
    rw [readTime_stamp hexpiry, Instant.stamped_eq_truncate hreading.2]
  have hshape : isTokenShaped session.row.token = true := by
    show isTokenShaped session.token = true
    rw [htoken]
    exact isTokenShaped_loginToken hbytes
  refine ⟨hexpires, ?_⟩
  rw [← htoken] at hfresh ⊢
  rw [← huser]
  rcases hstands.after_cases hshape rfl hreading hreadings hfresh with
    ⟨hlast, hopen⟩ | ⟨hgone, hreason⟩
  · rcases resolve_of_stands hlast hshape hread later with
      ⟨hexpired, hanswer, -⟩ | ⟨hvalid, -, row, hrow, hanswer⟩
    · refine ⟨none, hanswer, iff_of_false Bool.false_ne_true ?_, fun _ h => nomatch h⟩
      exact fun hvalid => Instant.not_lt.mpr hexpired hvalid.2
    · refine ⟨_, hanswer, iff_of_true rfl ⟨hopen, hvalid⟩, fun p hp => ?_⟩
      obtain rfl := Option.some.inj hp
      exact ⟨row, hrow, rfl⟩
  · refine ⟨none, resolve_of_noLogin hgone, iff_of_false Bool.false_ne_true ?_,
      fun _ h => nomatch h⟩
    rintro ⟨hopen, hvalid⟩
    rcases hreason with hclosed | ⟨e, he, hexpired⟩
    · exact hopen hclosed
    · exact Instant.not_lt.mpr (Instant.le_trans hexpired (hclock e he)) hvalid

/-- A store with one account. -/
def oneAccount : List Event :=
  [⟨⟨1772366400, 0⟩, .users (.create
    ⟨"ada", "ada@maze.example", "countess", some "Ada", .superAdmin, true⟩ ⟨4, [17]⟩ {})⟩]

/-- The bytes of a token. -/
def someBytes : List UInt8 := List.replicate 32 7

/-- The user who logs in. -/
def ada : User :=
  { id := 1, username := "ada", passwordHash := .ofPassword ⟨4, [17]⟩ "countess",
    email := "ada@maze.example", fullName := "Ada", role := .superAdmin, isActive := true,
    createdAt := ⟨1772366400, 0⟩, lastLogin := some ⟨1772366460, 1500000⟩, createdBy := none }

/-- Her login for an hour. -/
def adasLogin : LoginSession :=
  { token := loginToken someBytes, userId := 1, createdAt := ⟨1772366460, 1500000⟩,
    expiresAt := ⟨1772370060, 1500000⟩, ipAddress := none, userAgent := none }

/-- Shortly before the hour is over expired logins are purged, and she gets another name. -/
def meanwhile : List Event :=
  [⟨⟨1772370060, 900000⟩, .logins .purge⟩,
    ⟨⟨1772370060, 900000⟩, .users (.update 1 { fullName := some "Countess" } ⟨4, [18]⟩ {})⟩,
    ⟨⟨1772370060, 999999⟩, .logins (.resolve (loginToken someBytes))⟩]

/-- Within the last millisecond of the hour the token still has the account behind it, under its new
name. -/
theorem resolve_opened_meanwhile :
    let opened := ((logIn "ada" "countess" (loginToken someBytes) 3600 {}
      ⟨1772366460, 1500000⟩).run ((Store.empty .disabled).after oneAccount)).2
    someBytes.length = tokenBytes
      ∧ (logIn "ada" "countess" (loginToken someBytes) 3600 {} ⟨1772366460, 1500000⟩).answer
        ((Store.empty .disabled).after oneAccount) = .ok (ada, adasLogin)
      ∧ (∀ e ∈ meanwhile, ¬ e.Issues (loginToken someBytes))
      ∧ (∀ e ∈ meanwhile, e.now ≤ ⟨1772370060, 999999⟩)
      ∧ (⟨1772366460, 1500000⟩ : Instant).IsReading ∧ (∀ e ∈ meanwhile, e.now.IsReading)
      ∧ adasLogin.expiresAt.HasFourDigitYear
      ∧ ∃ answer, (resolve (loginToken someBytes) ⟨1772370060, 999999⟩).answer
          (opened.after meanwhile) = .ok answer
        ∧ (answer.isSome ↔ ¬ opened.ClosedIn (loginToken someBytes) 1 meanwhile
          ∧ (⟨1772370060, 999999⟩ : Instant) < adasLogin.expiresAt.truncate)
        ∧ ∀ p ∈ answer, ∃ row, (opened.after meanwhile).database.users.find? 1 = some row
          ∧ p = ⟨1, row.username, row.fullName, row.role, adasLogin.expiresAt.truncate⟩ := by
  have hlogin : (logIn "ada" "countess" (loginToken someBytes) 3600 {}
      ⟨1772366460, 1500000⟩).answer ((Store.empty .disabled).after oneAccount)
        = .ok (ada, adasLogin) := by
    decide +kernel
  have hfresh : ∀ e ∈ meanwhile, ¬ e.Issues (loginToken someBytes) := by
    simp [meanwhile, Event.Issues]
  refine ⟨by decide, hlogin, hfresh, by decide, by decide, by decide, by decide, ?_⟩
  exact (resolve_opened .disabled oneAccount "ada" "countess" someBytes 3600 {}
    ⟨1772366460, 1500000⟩ ada adasLogin meanwhile ⟨1772370060, 999999⟩ (by decide) hlogin hfresh
    (by decide) (by decide) (by decide) (by decide)).2

end Logins

end RobotMaze
