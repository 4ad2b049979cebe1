import RobotMaze.Proofs.Login.Recorded

/-! # Accounts over a run

    A call leaves the table of users as it is, or it puts one account there.  The
    account keeps its password, unless the call gave it one:

    * `Event.SetsPassword` — the calls that give a password to an account;
    * `Users.Step` — what a call does to the table of users;
    * `Event.users_step` — that is so of every call;
    * `Users.stored_after` — so the accounts of every run obey the rules. -/

namespace RobotMaze

open Time (Instant)

/-- A call has given an account a password. -/
def Event.SetsPassword (e : Event) (s : Store) (id : Int) (password : String) : Prop :=
  match e.call with
  | .users (.create input hashing actor) => ∃ u,
      (Users.create input hashing actor e.now).answer s = .ok u ∧ u.id = id
        ∧ input.password = password
  | .users (.ensureFirstAdmin config hashing) => ∃ u,
      (Users.ensureFirstAdmin config hashing e.now).answer s = .ok (some u) ∧ u.id = id
        ∧ config.password = password
  | .users (.update changed c hashing actor) => ∃ u,
      (Users.update changed c hashing actor e.now).answer s = .ok u ∧ changed = id
        ∧ c.newPassword = some password
  | .users (.changePassword changed given hashing actor) =>
      (Users.changePassword changed given hashing actor e.now).answer s = .ok () ∧ changed = id
        ∧ given = password
  | _ => False

namespace Users

theorem Stored.of_users {s t : Store} (hs : Stored s)
    (h : t.database.users = s.database.users) : Stored t :=
  ⟨h ▸ hs.numbered, h ▸ hs.sound, h ▸ hs.apart⟩

/-- What is done to the table of users by a call that gives passwords to accounts: nothing, or one
    account is put there, with the password that was given if there was one. -/
inductive Step (gives : Int → String → Prop) (s : Store) : Table UserRow → Prop where
  | same (none : ∀ id p, ¬ gives id p) : Step gives s s.database.users
  | put {password : Option String} {id : Int} {u : Store} (put : s.PutAccount password id u)
      (only : ∀ i p, gives i p ↔ id = i ∧ password = some p) : Step gives s u.database.users

section Step

variable {α : Type} {s : Store} {gives : Int → String → Prop}

theorem Stored.step {t : Store} (hs : Stored s) (h : Step gives s t.database.users) :
    Stored t := by
  generalize husers : t.database.users = users at h
  cases h with
  | same => exact hs.of_users husers
  | put hput => exact (hs.put hput).of_users husers

/-- A call that writes to users, if it does, as it says in its record. -/
theorem Step.of_recorded {idle : α → Prop} {change : α → Int → Store → Prop} {actor : Actor}
    {resourceType : String} {now : Instant} {op : Op α}
    (h : op.Ends s (Recorded idle change actor resourceType now s))
    (hfailed : ∀ f, op.answer s = .error f → ∀ i p, ¬ gives i p)
    (hidle : ∀ a, op.answer s = .ok a → idle a → ∀ i p, ¬ gives i p)
    (hchange : ∀ a id u, op.answer s = .ok a → change a id u → ∃ password,
      s.PutAccount password id u ∧ ∀ i p, gives i p ↔ id = i ∧ password = some p) :
    Step gives s (op.run s).2.database.users := by
  simp only [Op.Ends] at h
  generalize hr : op.answer s = r at h hfailed hidle hchange
  generalize (op.run s).2 = t at h
  cases h with
  | failed f => exact .same (hfailed f rfl)
  | idle nothing => exact .same (hidle _ rfl nothing)
  | recorded changed tells =>
      obtain ⟨password, hput, honly⟩ := hchange _ _ _ rfl changed
      rw [Store.noted_users]
      exact .put hput honly

/-- A call that keeps users gives no password to any of them. -/
theorem Step.of_keeps {op : Op α} (h : op.Keeps fun s => s.database.users)
    (hgives : ∀ i p, ¬ gives i p) : Step gives s (op.run s).2.database.users := by
  rw [Op.Keeps.run h s]
  exact .same hgives

/-- Letting somebody in gives no password to any account. -/
theorem Step.of_saw {t : Store} {row : UserRow} {now : Instant} (h : s.Saw row now t)
    (hs : Stored s) (hnow : now.HasFourDigitYear) (hgives : ∀ i p, ¬ gives i p) :
    Step gives s t.database.users :=
  .put (h.putAccount hs hnow) fun i p => ⟨fun hp => (hgives i p hp).elim, fun hp => nomatch hp.2⟩

end Step

end Users

section Calls

variable {s : Store} (hs : Users.Stored s) {now : Instant} (hnow : now.HasFourDigitYear)
include hs hnow

theorem Logins.Call.users_step (c : Logins.Call) :
    Users.Step (Event.SetsPassword ⟨now, .logins c⟩ s) s
      ((c.op now).2.run s).2.database.users := by
  cases c with
  | openFor u token seconds actor =>
      exact .of_keeps (Logins.keeps_openFor (fun _ _ => rfl) u token seconds actor now)
        fun _ _ h => h
  | close token => exact .of_keeps (Logins.keeps_close (fun _ _ => rfl) token) fun _ _ h => h
  | resolve token =>
      exact .of_keeps (Logins.keeps_resolve (fun _ _ => rfl) token now) fun _ _ h => h
  | purge => exact .of_keeps (Logins.keeps_purge (fun _ _ => rfl) now) fun _ _ h => h
  | logOut token actor =>
      have haudit : BesideAudit fun s : Store => s.database.users :=
        ⟨fun _ _ => rfl, fun _ _ => rfl⟩
      exact .of_keeps (Logins.keeps_logOut (fun _ _ => rfl) haudit token actor now)
        fun _ _ h => h
  | logIn username password token seconds actor =>
      have hattempted : (Logins.logIn username password token seconds actor now).Ends s _ :=
        Logins.logIn_attempted hs username password token seconds actor
      show (Logins.logIn username password token seconds actor now).Ends s fun _ t =>
        Users.Step _ s t.database.users
      refine hattempted.imp fun r t h => ?_
      cases h with
      | rejected =>
          rw [Store.noted_users]
          exact .same fun _ _ h => h
      | unopened other saw => exact .of_saw saw hs hnow fun _ _ h => h
      | opened saw same =>
          rw [Store.noted_users, Store.users_of_books same]
          exact .of_saw saw hs hnow fun _ _ h => h

theorem Users.Call.users_step (c : Users.Call) :
    Users.Step (Event.SetsPassword ⟨now, .users c⟩ s) s
      ((c.op now).2.run s).2.database.users := by
  cases c with
  | create input hashing actor =>
      refine .of_recorded (Users.create_recorded actor hnow input hashing) ?_ ?_ ?_
      · rintro f hf i p ⟨u, hu, -⟩
        cases hf.symm.trans hu
      · exact fun _ _ h => h.elim
      · rintro u id t hu ⟨rfl, hput⟩
        refine ⟨_, hput, fun i p => ⟨?_, fun h => ⟨u, hu, h.1, Option.some.inj h.2⟩⟩⟩
        rintro ⟨v, hv, hid, rfl⟩
        obtain rfl := Except.ok.inj (hu.symm.trans hv)
        exact ⟨hid, rfl⟩
  | ensureFirstAdmin config hashing =>
      refine .of_recorded (Users.ensureFirstAdmin_recorded hnow config hashing) ?_ ?_ ?_
      · rintro f hf i p ⟨u, hu, -⟩
        cases hf.symm.trans hu
      · rintro a ha ⟨rfl, -⟩ i p ⟨u, hu, -⟩
        cases ha.symm.trans hu
      · rintro a id t ha ⟨⟨u, hu, rfl⟩, hput⟩
        refine ⟨_, hput, fun i p => ⟨?_, fun h => ⟨u, ?_, h.1, Option.some.inj h.2⟩⟩⟩
        · rintro ⟨v, hv, hid, rfl⟩
          obtain rfl := Except.ok.inj (ha.symm.trans hv)
          obtain rfl := Option.some.inj hu
          exact ⟨hid, rfl⟩
        · exact ha.trans (congrArg _ hu)
  | update id c hashing actor =>
      refine .of_recorded (Users.update_recorded hs actor id c hashing) ?_ ?_ ?_
      · rintro f hf i p ⟨u, hu, -⟩
        cases hf.symm.trans hu
      · rintro u - hidle i p ⟨-, -, -, hp⟩
        cases hidle.newPassword.symm.trans hp
      · rintro u i t hu ⟨rfl, hput⟩
        refine ⟨_, hput, fun i p => ⟨?_, fun h => ⟨u, hu, h⟩⟩⟩
        rintro ⟨-, -, h⟩
        exact h
  | changePassword id password hashing actor =>
      refine .of_recorded (Users.changePassword_recorded hs actor id password hashing) ?_ ?_ ?_
      · rintro f hf i p ⟨hok, -⟩
        cases hf.symm.trans hok
      · exact fun _ _ h => h.elim
      · rintro ⟨⟩ i t hok ⟨rfl, hput⟩
        refine ⟨_, hput, fun i p => ⟨?_, fun h => ⟨hok, h.1, Option.some.inj h.2⟩⟩⟩
        rintro ⟨-, hid, rfl⟩
        exact ⟨hid, rfl⟩
  | delete id actor =>
      refine .of_recorded (Users.delete_recorded hs actor id) (fun _ _ _ _ h => h)
        (fun _ _ _ _ _ h => h) fun _ _ _ _ hput => ⟨_, hput, fun i p => ?_⟩
      exact ⟨fun h => h.elim, fun h => nomatch h.2⟩
  | reactivate id actor =>
      refine .of_recorded (Users.reactivate_recorded hs actor id) (fun _ _ _ _ h => h)
        (fun _ _ _ _ _ h => h) fun _ _ _ _ hput => ⟨_, hput, fun i p => ?_⟩
      exact ⟨fun h => h.elim, fun h => nomatch h.2⟩
  | authenticate username password =>
      show (Users.authenticate username password now).Ends s fun _ t =>
        Users.Step _ s t.database.users
      refine (Users.authenticate_entry hs username password now).imp fun r t h => ?_
      cases h with
      | refused => exact .same fun _ _ h => h
      | admitted found admits id_eq saw => exact .of_saw saw hs hnow fun _ _ h => h
  | endLogins id =>
      exact .of_keeps (Users.keeps_endLogins (fun _ _ => rfl) id) fun _ _ h => h
  | get | find | search | page | roles | count | countActive | isUsernameAvailable
  | isEmailAvailable =>
      exact .of_keeps (Users.Call.keeps_of_reading rfl) fun _ _ h => h

end Calls

/-- What a call does to the table of users. -/
theorem Event.users_step {s : Store} (hs : Users.Stored s) {e : Event}
    (hnow : e.now.HasFourDigitYear) :
    Users.Step (e.SetsPassword s) s (s.next e).database.users := by
  have haudit : BesideAudit fun s : Store => s.database.users := ⟨fun _ _ => rfl, fun _ _ => rfl⟩
  obtain ⟨now, c⟩ := e
  cases c with
  | tracks c => exact .of_keeps (c.keeps (fun _ _ => rfl) haudit) fun _ _ h => h
  | users c => exact c.users_step hs hnow
  | logins c => exact c.users_step hs hnow
  | audit c => exact .of_keeps (c.keeps haudit) fun _ _ h => h
  | games c => exact .of_keeps (c.keeps fun _ _ => rfl) fun _ _ h => h
  | reports c => exact .of_keeps c.keeps fun _ _ h => h

namespace Users

theorem Stored.next {s : Store} (hs : Stored s) {e : Event} (hnow : e.now.HasFourDigitYear) :
    Stored (s.next e) :=
  hs.step (Event.users_step hs hnow)

theorem Stored.after {s : Store} (hs : Stored s) {run : List Event}
    (hnow : ∀ e ∈ run, e.now.HasFourDigitYear) : Stored (s.after run) :=
  Store.after_invariant (P := Stored) (fun e he _ ht => ht.next (hnow e he)) hs

/-- The accounts of every run obey the rules. -/
theorem stored_after (trail : Trail) {run : List Event}
    (hnow : ∀ e ∈ run, e.now.HasFourDigitYear) : Stored ((Store.empty trail).after run) :=
  (stored_empty trail).after hnow

end Users

end RobotMaze
