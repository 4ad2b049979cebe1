import RobotMaze.Proofs.Login.Standing
import RobotMaze.Proofs.Time.Order

/-! # How logins end

    A login that stands is ended by whoever logs out, by ending the logins of its
    user or deactivating that user, or by its expiry once somebody looks:

    * `Event.Closes` — a call that ends a login before it expires;
    * `resolve_of_stands` — a standing login is resolved until it expires;
    * `delete_ends`, `update_ends` — an account is deactivated together with its
      logins, or it stays as it is;
    * `LoginRow.Stands.next_cases` — what any call makes of a standing login. -/

namespace RobotMaze

open Time (Instant)

/-- A call ends a login of a user before it expires: the token is logged out or its login removed,
    all logins of the user are ended, or the user was active before the call and is not after it. -/
inductive Event.Closes (token : String) (userId : Int) (s : Store) : Event → Prop where
  | removed (now : Instant) : Closes token userId s ⟨now, .logins (.close token)⟩
  | loggedOut (now : Instant) (actor : Actor) :
      Closes token userId s ⟨now, .logins (.logOut token actor)⟩
  | ended (now : Instant) : Closes token userId s ⟨now, .users (.endLogins userId)⟩
  | deleted {now : Instant} {actor : Actor} (active : s.database.HasActiveUser userId)
      (inactive : ¬ (s.next ⟨now, .users (.delete userId actor)⟩).database.HasActiveUser userId) :
      Closes token userId s ⟨now, .users (.delete userId actor)⟩
  | deactivated {now : Instant} {c : UserChange} {hashing : Hashing} {actor : Actor}
      (flag : c.isActive = some false) (active : s.database.HasActiveUser userId)
      (inactive :
        ¬ (s.next ⟨now, .users (.update userId c hashing actor)⟩).database.HasActiveUser
        userId) :
      Closes token userId s ⟨now, .users (.update userId c hashing actor)⟩

theorem Event.Closes.touches {r : LoginRow} {s : Store} {e : Event}
    (h : e.Closes r.token r.userId s) : e.Touches r := by
  cases h with
  | removed | loggedOut | ended | deleted => rfl
  | deactivated flag => exact ⟨rfl, flag⟩

namespace LoginRow.Stands

variable {r : LoginRow} {db : Database} {s : Store}

/-- Nothing is left of a login that is among those that are removed. -/
theorem loginsOf_deleteLogins (h : r.Stands db) {test : LoginRow → Bool} (htest : test r = true) :
    (db.deleteLogins test).2.loginsOf r.token = [] := by
  rw [Database.loginsOf_deleteLogins, h.login]
  refine List.filter_eq_nil_iff.mpr fun row hrow => ?_
  rw [List.mem_singleton.mp hrow, htest]
  exact Bool.false_ne_true

/-- A standing login has a principal: its user as of now, until the login expires. -/
theorem principalOf (h : r.Stands db) {expiry : Instant} (hexpiry : readTime r.expiresAt = .ok expiry) :
    ∃ u, db.users.find? r.userId = some u ∧ db.principalOf r.token
      = .ok (some ⟨r.userId, u.username, u.fullName, u.role, expiry⟩) := by
  obtain ⟨u, hfind, hactive⟩ := h.user
  refine ⟨u, hfind, ?_⟩
  have hlogin : db.logins.find? (fun row => row.token == r.token) = some r := by
    rw [← List.head?_filter]
    exact congrArg List.head? h.login
  have huid : u.id = r.userId := (Table.find?_eq_some hfind).2
  simp only [Database.principalOf, hlogin, hfind]
  rw [if_pos (show (u.isActive == 1) = true from hactive), hexpiry, huid]
  rfl

end LoginRow.Stands

namespace Logins

variable {r : LoginRow} {s : Store} {now : Instant}

/-- Nothing is left of a token that is closed. -/
theorem close_ends (token : String) (s : Store) :
    (close token).Ends s fun x t => (∃ found, x = .ok found) ∧ t.database.loginsOf token = [] := by
  refine ⟨⟨_, rfl⟩, ?_⟩
  show (s.database.deleteLogins _).2.loginsOf token = []
  rw [Database.loginsOf_deleteLogins, Database.loginsOf, List.filter_filter]
  refine List.filter_eq_nil_iff.mpr fun row _ => ?_
  simp

/-- A token without a login has no principal. -/
theorem resolve_of_noLogin {token : String} (h : s.database.loginsOf token = []) :
    (resolve token now).answer s = .ok none := by
  have hprincipal : s.database.principalOf token = .ok none := by
    have hfind : s.database.logins.find? (fun row => row.token == token) = none := by
      rw [← List.head?_filter]
      exact congrArg List.head? h
    simp only [Database.principalOf, hfind]
  simp only [resolve]
  by_cases hshape : (!isTokenShaped token) = true
  · rw [if_pos hshape]
    rfl
  · rw [if_neg hshape]
    refine (Op.Reads.answer_bind (Op.keeps_queryRead _) _ s).trans ?_
    rw [show (Op.queryRead (Database.principalOf token)).answer s = .ok none from hprincipal]
    rfl

/-- A standing login is resolved to its principal until it expires; then it is removed. -/
theorem resolve_of_stands (h : r.Stands s.database) (hshape : isTokenShaped r.token = true)
    {expiry : Instant} (hexpiry : readTime r.expiresAt = .ok expiry) (now : Instant) :
    (expiry ≤ now ∧ (resolve r.token now).answer s = .ok none
        ∧ ((resolve r.token now).run s).2.database.loginsOf r.token = [])
      ∨ (now < expiry ∧ ((resolve r.token now).run s).2 = s
        ∧ ∃ u, s.database.users.find? r.userId = some u ∧ (resolve r.token now).answer s
          = .ok (some ⟨r.userId, u.username, u.fullName, u.role, expiry⟩)) := by
  obtain ⟨u, hfind, hprincipal⟩ := h.principalOf hexpiry
  suffices hends : (resolve r.token now).Ends s fun x t =>
      (expiry ≤ now ∧ x = .ok none ∧ t.database.loginsOf r.token = [])
        ∨ (now < expiry ∧ t = s ∧ ∃ u, s.database.users.find? r.userId = some u
          ∧ x = .ok (some ⟨r.userId, u.username, u.fullName, u.role, expiry⟩)) from hends
  simp only [resolve]
  rw [if_neg (by rw [hshape]; exact Bool.false_ne_true)]
  refine Op.Ends.reading (Op.keeps_queryRead _) (fun e he => ?_) fun answer hanswer => ?_
  · cases hprincipal.symm.trans he
  obtain rfl : some _ = answer := Except.ok.inj (hprincipal.symm.trans hanswer)
  by_cases hexpired : expiry ≤ now
  · simp only [Principal.isExpired, hexpired, decide_true, if_true]
    refine (close_ends r.token s).bind ?_ ?_
    · rintro found t ⟨-, hclosed⟩
      exact Op.ends_pure (Or.inl ⟨trivial, rfl, hclosed⟩)
    · rintro e t ⟨⟨found, hfound⟩, -⟩
      cases hfound
  · simp only [Principal.isExpired, hexpired, decide_false]
    exact Op.ends_pure (Or.inr ⟨Instant.not_le.mp hexpired, rfl, u, hfind, rfl⟩)

/-- Nothing is left of a standing login whose token is logged out. -/
theorem logOut_ends (h : r.Stands s.database) (hshape : isTokenShaped r.token = true)
    {expiry : Instant} (hexpiry : readTime r.expiresAt = .ok expiry) (actor : Actor) :
    (logOut r.token actor now).Ends s fun _ t => t.database.loginsOf r.token = [] := by
  have hresolve : (resolve r.token now).Ends s fun x _ => ∃ p, x = .ok p := by
    rcases resolve_of_stands h hshape hexpiry now with
      ⟨-, hanswer, -⟩ | ⟨-, -, u, -, hanswer⟩
    · exact ⟨_, hanswer⟩
    · exact ⟨_, hanswer⟩
  simp only [logOut]
  refine hresolve.bind (fun p t _ => ?_) fun e t hfailed => by cases hfailed.choose_spec
  refine (close_ends r.token t).bind ?_ ?_
  · rintro found u ⟨-, hclosed⟩
    have hlogins : ∀ v : Store, v.accounts = u.accounts →
        v.database.loginsOf r.token = [] := by
      intro v hv
      rw [Database.loginsOf, show v.database.logins = u.database.logins from congrArg Prod.snd hv]
      exact hclosed
    cases p with
    | none => exact hclosed
    | some p =>
        exact Op.Ends.keeping (AuditLog.keeps_note besideAudit_accounts _ now) fun _ v hv =>
          hlogins v hv
  · rintro e u ⟨⟨found, hfound⟩, -⟩
    cases hfound

end Logins

namespace Users

variable {id : Int} {s : Store} {now : Instant}

/-- An account was deactivated, and its logins are gone. -/
structure Dismissed (id : Int) (s t : Store) : Prop where
  inactive : ¬ t.database.HasActiveUser id
  logins : t.database.logins = s.database.logins.filter fun r => !(r.userId == id)

/-- What is made inactive under its id is not active any more. -/
theorem not_hasActiveUser_changed (db : Database) {f : UserRow → UserRow}
    (hid : ∀ u, Row.id (f u) = Row.id u) (hoff : ∀ u, Database.userIsActive (f u) = false) :
    ¬ Database.HasActiveUser id { db with users := db.users.changed id f } := by
  rintro ⟨v, hfind, hactive⟩
  rw [show Table.find? (db.users.changed id f) id = _ from Table.find?_changed hid id id] at hfind
  obtain ⟨u, hu, rfl⟩ := Option.map_eq_some_iff.mp hfind
  rw [if_pos (beq_iff_eq.mpr (Table.find?_eq_some hu).2), hoff] at hactive
  cases hactive

/-- After an account was deactivated its logins are ended, and nothing that follows brings them
    back. -/
theorem endLogins_ends {α : Type} {f : UserRow → UserRow}
    (hid : ∀ u, Row.id (f u) = Row.id u) (hoff : ∀ u, Database.userIsActive (f u) = false)
    {rest : Nat → Op α} (hrest : ∀ n, (rest n).Keeps Store.accounts) :
    (endLogins id >>= rest).Ends
      { s with database := { s.database with users := s.database.users.changed id f } }
      fun _ t => Dismissed id s t := by
  refine Op.Ends.changing (fun e he => by cases he) fun n db hdb => ?_
  cases hdb
  refine Op.Ends.keeping (hrest _) fun _ t ht => ?_
  have husers : t.database.users = s.database.users.changed id f := congrArg Prod.fst ht
  have hlogins : t.database.logins = s.database.logins.filter fun r => !(r.userId == id) :=
    congrArg Prod.snd ht
  refine ⟨?_, hlogins⟩
  rw [Database.HasActiveUser, husers]
  exact not_hasActiveUser_changed s.database hid hoff

/-- An account that is deleted is deactivated together with its logins, or nothing changes. -/
theorem delete_ends (id : Int) (actor : Actor) (now : Instant) (s : Store) :
    (delete id actor now).Ends s fun _ t => t.accounts = s.accounts ∨ Dismissed id s t := by
  simp only [delete]
  refine Op.Ends.reading (keeps_get id) (fun _ _ => Or.inl rfl) fun u hu => ?_
  by_cases hown : actor.username = some u.username
  · simp only [if_pos hown]
    exact Or.inl rfl
  by_cases hactive : (!u.isActive) = true
  · simp only [if_neg hown, if_pos hactive]
    exact Or.inl rfl
  simp only [if_neg hown, if_neg hactive]
  refine Op.Ends.changing (fun _ _ => Or.inl rfl) fun n db hdb => ?_
  obtain ⟨users, hmodify, rfl⟩ := Database.modifyUser_ok hdb
  rcases Table.modify_ok hmodify with ⟨rfl, rfl⟩ | ⟨row, -, -, -, rfl, rfl⟩
  · -- no row satisfied the condition, and all that follows is reading
    refine Op.Ends.keeping ?_ fun _ t ht => Or.inl ht
    show Op.Keeps Store.accounts (do
      if (← get id).isActive then throw (.conflict .lastAdminDeleted)
      else return ())
    grind
  · refine (endLogins_ends ?_ ?_ fun n => ?_).imp fun _ t ht => Or.inr ht
    · exact fun _ => rfl
    · exact fun _ => rfl
    · exact AuditLog.keeps_note besideAudit_accounts _ now

/-- An update that asks for it deactivates the account together with its logins, or nothing
    changes. -/
theorem update_ends (id : Int) {c : UserChange} (hflag : c.isActive = some false)
    (hashing : Hashing)
    (actor : Actor) (now : Instant) (s : Store) :
    (update id c hashing actor now).Ends s fun _ t =>
      t.accounts = s.accounts ∨ Dismissed id s t := by
  simp only [update]
  refine Op.Ends.reading (keeps_get id) (fun _ _ => Or.inl rfl) fun current _ => ?_
  refine Op.Ends.reading (keeps_checkChange id c hashing) (fun _ _ => Or.inl rfl) ?_
  rintro ⟨checked, hash⟩ hchecked
  obtain ⟨-, hactive⟩ := checkChange_ok hchecked
  have hinactive : checked.isActive = some false := hactive.trans hflag
  have heffect : ¬ (!hasEffect checked) = true := by
    simp [hasEffect, hinactive]
  simp only [if_neg heffect]
  refine Op.Ends.changing (fun _ _ => Or.inl rfl) fun n db hdb => ?_
  obtain ⟨users, hmodify, rfl⟩ := Database.modifyUser_ok hdb
  rcases Table.modify_ok hmodify with ⟨rfl, rfl⟩ | ⟨row, -, -, -, rfl, rfl⟩
  · simp only [if_true]
    split <;> exact Or.inl rfl
  · simp only [if_neg (by decide : ¬ 1 = 0), if_pos hflag]
    refine (endLogins_ends ?_ ?_ fun n => ?_).imp fun _ t ht => Or.inr ht
    · exact fun _ => rfl
    · intro u
      simp only [Database.userIsActive, changeRow, hinactive]
      rfl
    · refine Op.keeps_bind (keeps_get id) fun updated => ?_
      exact Op.keeps_bind (AuditLog.keeps_note besideAudit_accounts _ now) fun _ =>
        Op.keeps_pure updated

end Users

/-! ## Any call -/

namespace LoginRow.Stands

variable {r : LoginRow} {s : Store}

/-- A login of a user who was deactivated is gone. -/
theorem loginsOf_of_dismissed (h : r.Stands s.database) {t : Store}
    (ht : Users.Dismissed r.userId s t) : t.database.loginsOf r.token = [] := by
  have htest : (fun row : LoginRow => row.userId == r.userId) r = true := beq_self_eq_true r.userId
  rw [Database.loginsOf, ht.logins]
  exact h.loginsOf_deleteLogins htest

/-- A call that deactivates the user, or changes nothing, closes the login just if it does so. -/
theorem next_cases_of_dismissed (h : r.Stands s.database) (e : Event)
    (hends : (s.next e).accounts = s.accounts ∨ Users.Dismissed r.userId s (s.next e))
    (hcloses : e.Closes r.token r.userId s ↔ ¬ (s.next e).database.HasActiveUser r.userId) :
    (r.Stands (s.next e).database ∧ ¬ e.Closes r.token r.userId s)
      ∨ ((s.next e).database.loginsOf r.token = [] ∧ e.Closes r.token r.userId s) := by
  rcases hends with hsame | hdismissed
  · have hstands := h.of_accounts hsame
    exact Or.inl ⟨hstands, fun hclosed => hcloses.mp hclosed hstands.user⟩
  · exact Or.inr ⟨h.loginsOf_of_dismissed hdismissed, hcloses.mpr hdismissed.inactive⟩

/-- After any call a login either still stands, and the call has not closed it, or it is gone
    because the call has closed it or because it had expired. -/
theorem next_cases (h : r.Stands s.database) (hshape : isTokenShaped r.token = true)
    {expiresAt : Instant} (hrow : r.expiresAt = expiresAt.stamp) (hexpiry : expiresAt.IsReading)
    {e : Event} (hnow : e.now.IsReading) (hfresh : ¬ e.Issues r.token) :
    (r.Stands (s.next e).database ∧ ¬ e.Closes r.token r.userId s)
      ∨ ((s.next e).database.loginsOf r.token = []
        ∧ (e.Closes r.token r.userId s ∨ expiresAt.truncate ≤ e.now)) := by
  have hread : readTime r.expiresAt = .ok expiresAt.truncate := by
    rw [hrow, readTime_stamp hexpiry.1, Instant.stamped_eq_truncate hexpiry.2]
  by_cases htouches : e.Touches r
  case neg =>
    have hupholds := upholds_standing hfresh htouches
    exact Or.inl ⟨((hupholds s).run h).1, fun hcloses => htouches hcloses.touches⟩
  obtain ⟨now, c⟩ := e
  cases c with
  | users c =>
      cases c with
      | delete id actor =>
          obtain rfl : id = r.userId := htouches
          have hcases := h.next_cases_of_dismissed ⟨now, .users (.delete r.userId actor)⟩
            (Users.delete_ends r.userId actor now s)
            ⟨fun hcloses => by cases hcloses; assumption, .deleted h.user⟩
          exact hcases.imp_right (And.imp_right Or.inl)
      | update id c hashing actor =>
          obtain ⟨rfl, hflag⟩ : id = r.userId ∧ c.isActive = some false := htouches
          have hcases := h.next_cases_of_dismissed
            ⟨now, .users (.update r.userId c hashing actor)⟩
            (Users.update_ends r.userId hflag hashing actor now s)
            ⟨fun hcloses => by cases hcloses; assumption, .deactivated hflag h.user⟩
          exact hcases.imp_right (And.imp_right Or.inl)
      | endLogins id =>
          obtain rfl : id = r.userId := htouches
          have htest : (fun row : LoginRow => row.userId == r.userId) r = true :=
            beq_self_eq_true r.userId
          exact Or.inr ⟨h.loginsOf_deleteLogins htest, Or.inl (.ended now)⟩
      | _ => exact htouches.elim
  | logins c =>
      cases c with
      | close token =>
          obtain rfl : token = r.token := htouches
          exact Or.inr ⟨(Logins.close_ends r.token s).2, Or.inl (.removed now)⟩
      | logOut token actor =>
          obtain rfl : token = r.token := htouches
          exact Or.inr ⟨Logins.logOut_ends h hshape hread actor, Or.inl (.loggedOut now actor)⟩
      | resolve token =>
          obtain rfl : token = r.token := htouches
          rcases Logins.resolve_of_stands h hshape hread now with
            ⟨hexpired, -, hgone⟩ | ⟨-, hsame, -⟩
          · exact Or.inr ⟨hgone, Or.inr hexpired⟩
          · refine Or.inl ⟨h.of_accounts (congrArg Store.accounts hsame), fun hcloses => ?_⟩
            cases hcloses
      | purge =>
          by_cases hpurged : r.expiresAt ≤ now.stamp
          · -- the stamps are in the order of the instants, so the login has expired
            have hgone : ((Logins.purge now).run s).2.database.loginsOf r.token = [] :=
              h.loginsOf_deleteLogins (decide_eq_true hpurged)
            rw [hrow] at hpurged
            have hexpired := (Instant.stamp_le_stamp_iff hexpiry hnow).mp hpurged
            exact Or.inr ⟨hgone, Or.inr (Instant.le_trans hexpired (Instant.truncate_le now))⟩
          · have hupholds : (Logins.purge now).Upholds r.standing :=
              deleteLogins_upholds_standing (decide_eq_false hpurged)
            exact Or.inl ⟨((hupholds s).run h).1, fun hcloses => by cases hcloses⟩
      | _ => exact htouches.elim
  | _ => exact htouches.elim

end LoginRow.Stands

end RobotMaze
