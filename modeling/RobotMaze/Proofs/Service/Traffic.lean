import RobotMaze.Proofs.Service.Calls
import RobotMaze.Proofs.Store.Pact
import RobotMaze.Proofs.User.Pacts

/-! # Traffic — calls that overtake each other

    There are two kinds of histories of a store.  In a run every call ends before
    the next one comes in (`Store.after`).  In a schedule many calls can be under
    way at once: at every turn a call comes in, or one that is under way takes its
    next step; which one, nobody knows beforehand.  What holds after every run need
    not hold after every schedule.

    * `Traffic.next` — one turn, `Store.shared` — the store after a schedule;
    * `Store.shared_upholds` — what all calls of a schedule keep to, by induction
      on its turns;
    * `Logins.Call.upholds` — a call on logins, from the changes that it makes;
    * `Event.upholds`, `Event.upholds_of_sees` — any call, if what the services for
      users and for logins change keeps to a pact;
    * `Store.after_upholds` — a run of calls, one after the other, and
      `Store.holds_shared` — such a run and a schedule after it. -/

namespace RobotMaze

/-! ## Turns -/

/-- What is left of a computation after its next step, and the state after that step. -/
def Steps.advance {σ α : Type} (x : Steps σ α) (s : σ) : Steps σ α × σ :=
  match x with
  | .done a => (.done a, s)
  | .step change next => (next s, change s)

/-- One turn on a store that many calls share. -/
inductive Turn where
  /-- A call comes in.  It has not taken a step yet. -/
  | arrive (e : Event)
  /-- The call in a place takes its next step.  Places are given out in the order of arrival. -/
  | step (place : Nat)

/-- A store and what is left of the calls on it. -/
structure Traffic where
  store : Store
  calls : List AnyOp

namespace Traffic

/-- The calls after a turn, and the store after it. -/
def next (t : Traffic) : Turn → Traffic
  | .arrive e => { t with calls := t.calls ++ [e.call.op e.now] }
  | .step place =>
      match t.calls[place]? with
      | none => t
      | some call =>
          let (rest, store) := Steps.advance (ExceptT.run call.2) t.store
          { store, calls := t.calls.set place ⟨call.1, ExceptT.mk rest⟩ }

end Traffic

/-- The store after a schedule of turns, at the beginning of which no call is under way. -/
def Store.shared (s : Store) (schedule : List Turn) : Store :=
  (schedule.foldl Traffic.next ⟨s, []⟩).store

/-! ## What all calls keep to -/

variable {p : Pact Store}

/-- The next step of a computation keeps to a pact, and so does what is left after it. -/
theorem Pact.Honoured.advance {α : Type} {post : α → Store → Prop} {x : Steps Store α}
    {s t : Store} (h : p.Honoured post s x) (hallows : p.allows s t) (ht : p.holds t) :
    p.holds (x.advance t).2 ∧ p.allows t (x.advance t).2
      ∧ ∃ u, p.allows u (x.advance t).2 ∧ p.Honoured post u (x.advance t).1 := by
  cases h with
  | done answer => exact ⟨ht, p.refl t, s, hallows, .done answer⟩
  | step now later =>
      obtain ⟨hholds, hstep⟩ := now t hallows ht
      exact ⟨hholds, hstep, _, p.refl _, later t hallows ht⟩

namespace Traffic

/-- All calls that are under way keep to a pact, each from where its last step has left it. -/
structure Orderly (p : Pact Store) (t : Traffic) : Prop where
  holds : p.holds t.store
  calls : ∀ call ∈ t.calls, ∃ s, p.allows s t.store ∧ call.2.Honours p s fun _ _ => True

theorem Orderly.next {t : Traffic} (h : t.Orderly p) {turn : Turn}
    (hturn : ∀ e, turn = .arrive e → (e.call.op e.now).2.Upholds p) :
    (t.next turn).Orderly p ∧ p.allows t.store (t.next turn).store := by
  cases turn with
  | arrive e =>
      refine ⟨⟨h.holds, fun call hcall => ?_⟩, p.refl _⟩
      rcases List.mem_append.mp hcall with hcall | hcall
      · exact h.calls call hcall
      · rw [List.mem_singleton.mp hcall]
        exact ⟨t.store, p.refl _, hturn e rfl t.store⟩
  | step place =>
      simp only [Traffic.next]
      cases hplace : t.calls[place]? with
      | none => exact ⟨h, p.refl _⟩
      | some mover =>
          obtain ⟨s, hs, hmover⟩ := h.calls mover (List.mem_of_getElem? hplace)
          obtain ⟨hholds, hstep, u, hu, hrest⟩ := hmover.advance hs h.holds
          refine ⟨⟨hholds, fun call hcall => ?_⟩, hstep⟩
          -- the mover goes on from its step; for the others more has changed in the meantime
          rcases List.mem_or_eq_of_mem_set hcall with hcall | rfl
          · obtain ⟨v, hv, hother⟩ := h.calls call hcall
            exact ⟨v, p.trans hv hstep, hother⟩
          · exact ⟨u, hu, hrest⟩

theorem Orderly.foldl_next {schedule : List Turn} {t : Traffic} (h : t.Orderly p)
    (hcalls : ∀ e, .arrive e ∈ schedule → (e.call.op e.now).2.Upholds p) :
    (schedule.foldl Traffic.next t).Orderly p
      ∧ p.allows t.store (schedule.foldl Traffic.next t).store := by
  induction schedule generalizing t with
  | nil => exact ⟨h, p.refl _⟩
  | cons turn rest ih =>
      obtain ⟨hnext, hturn⟩ := h.next fun e he => hcalls e (he ▸ List.mem_cons_self)
      obtain ⟨hend, hrest⟩ := ih hnext fun e he => hcalls e (List.mem_cons_of_mem _ he)
      exact ⟨hend, p.trans hturn hrest⟩

end Traffic

/-- If every call of a schedule keeps to a pact, the pact is kept at every moment. -/
theorem Store.shared_upholds {s : Store} (hs : p.holds s) {schedule : List Turn}
    (hcalls : ∀ e, .arrive e ∈ schedule → (e.call.op e.now).2.Upholds p) :
    p.holds (s.shared schedule) ∧ p.allows s (s.shared schedule) := by
  have hstart : Traffic.Orderly p ⟨s, []⟩ := ⟨hs, fun _ h => nomatch h⟩
  obtain ⟨hend, hallows⟩ := hstart.foldl_next hcalls
  exact ⟨hend.holds, hallows⟩

open Time (Instant)

/-! ## The changes of accounts -/

variable {now : Instant}

namespace Logins

/-- The changes of users and logins that a call makes keep to a pact. -/
def Call.ChangesUphold (p : Pact Store) (now : Instant) : Call → Prop
  | .openFor u token _ _ => ∀ session : LoginSession, session.token = token →
      session.userId = u.id → (Op.change (Database.insertLogin session)).Upholds p
  | .close token | .resolve token | .logOut token _ =>
      (Logins.close token).Upholds p
  | .purge => (Logins.purge now).Upholds p
  | .logIn _ _ token _ _ =>
      (∀ id, (Op.change (Database.modifyUser id (fun _ _ => true)
        fun r => { r with lastLogin := some now.stamp })).Upholds p)
      ∧ ∀ session : LoginSession, session.token = token →
        (Op.change (Database.insertLogin session)).Upholds p

theorem openFor_upholds (u : User) (token : String) (seconds : Int) (actor : Actor)
    (hinsert : ∀ session : LoginSession, session.token = token → session.userId = u.id →
      (Op.change (Database.insertLogin session)).Upholds p) :
    (openFor u token seconds actor now).Upholds p := by
  simp only [openFor]
  cases now.addSeconds? seconds with
  | none => exact Op.upholds_throw _
  | some expiresAt =>
      exact Op.upholds_bind (hinsert _ rfl rfl) fun _ => Op.upholds_pure _

theorem resolve_upholds (token : String) (hclose : (close token).Upholds p) :
    (resolve token now).Upholds p := by
  simp only [resolve]
  grind

theorem Call.upholds (hsees : p.Sees Store.accounts) {c : Call} (h : c.ChangesUphold p now) :
    (c.op now).2.Upholds p := by
  have hnote := fun e => (AuditLog.keeps_note besideAudit_accounts e now).upholds hsees
  cases c with
  | openFor u token seconds actor => exact openFor_upholds u token seconds actor h
  | close token => exact h
  | resolve token => exact resolve_upholds token h
  | purge => exact h
  | logIn username password token seconds actor =>
      have hauthenticate := fun name => Users.authenticate_upholds name password now h.1
      have hopen : ∀ u, (Logins.openFor u token seconds actor now).Upholds p := fun u =>
        openFor_upholds u token seconds actor fun session htoken _ => h.2 session htoken
      show (Logins.logIn username password token seconds actor now).Upholds p
      simp only [Logins.logIn]
      grind
  | logOut token actor =>
      have hclose : (Logins.close token).Upholds p := h
      have hresolve : (Logins.resolve token now).Upholds p := resolve_upholds token hclose
      show (Logins.logOut token actor now).Upholds p
      simp only [Logins.logOut]
      grind

/-- A pact that looks at users only is not concerned with what is done to logins. -/
theorem Call.changesUphold_of_sees (hsees : p.Sees fun s => s.database.users)
    (hlogin : ∀ id, (Op.change (Database.modifyUser id (fun _ _ => true)
      fun r => { r with lastLogin := some now.stamp })).Upholds p) (c : Call) :
    c.ChangesUphold p now := by
  have hbeside : BesideLogins fun s => s.database.users := fun _ _ => rfl
  have hinsert := fun session => (Op.keeps_insertLogin hbeside session).upholds hsees
  have hclose := fun token => (keeps_close hbeside token).upholds hsees
  cases c with
  | openFor => exact fun session _ _ => hinsert session
  | close token => exact hclose token
  | resolve token => exact hclose token
  | logOut token => exact hclose token
  | purge => exact (keeps_purge hbeside now).upholds hsees
  | logIn => exact ⟨hlogin, fun session _ => hinsert session⟩

end Logins

/-- The changes of users and logins that a call makes keep to a pact. -/
def Event.ChangesUphold (p : Pact Store) (e : Event) : Prop :=
  match e.call with
  | .users c => c.ChangesUphold p e.now
  | .logins c => c.ChangesUphold p e.now
  | _ => True

/-- A call keeps to a pact on users and logins, if the changes that it makes to them do. -/
theorem Event.upholds (hsees : p.Sees Store.accounts) {e : Event} (h : e.ChangesUphold p) :
    (e.call.op e.now).2.Upholds p := by
  obtain ⟨now, c⟩ := e
  cases c with
  | users c => exact Users.Call.upholds hsees h
  | logins c => exact Logins.Call.upholds hsees h
  | tracks c => exact (c.keeps (fun _ _ => rfl) besideAudit_accounts).upholds hsees
  | audit c => exact (c.keeps besideAudit_accounts).upholds hsees
  | games c => exact (c.keeps fun _ _ => rfl).upholds hsees
  | reports c => exact c.keeps.upholds hsees

/-- A call keeps to a pact on users alone, if the changes that calls on users make do. -/
theorem Event.upholds_of_sees (hsees : p.Sees fun s => s.database.users) (e : Event)
    (husers : ∀ c : Users.Call, c.ChangesUphold p e.now) : (e.call.op e.now).2.Upholds p := by
  refine Event.upholds (Pact.Sees.of_part Prod.fst hsees) ?_
  obtain ⟨now, c⟩ := e
  cases c with
  | users c => exact husers c
  | logins c =>
      -- logging in writes to users what authentication does
      exact c.changesUphold_of_sees hsees (husers (.authenticate "" ""))
  | _ => trivial

/-- With nobody in between, too, calls that keep to a pact leave a store on which it is kept. -/
theorem Store.after_upholds {s : Store} {run : List Event} (hs : p.holds s)
    (hrun : ∀ e ∈ run, (e.call.op e.now).2.Upholds p) : p.holds (s.after run) :=
  Store.after_invariant (fun e he t ht => ((hrun e he t).run ht).1) hs

/-- So do calls that come one after the other, and then others that overlap. -/
theorem Store.holds_shared {s : Store} {run : List Event} {schedule : List Turn} (hs : p.holds s)
    (hrun : ∀ e ∈ run, (e.call.op e.now).2.Upholds p)
    (hschedule : ∀ e, .arrive e ∈ schedule → (e.call.op e.now).2.Upholds p) :
    p.holds ((s.after run).shared schedule) :=
  (Store.shared_upholds (Store.after_upholds hs hrun) hschedule).1

end RobotMaze
