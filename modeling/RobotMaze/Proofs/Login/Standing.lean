import RobotMaze.Proofs.Service.Traffic

/-! # Standing logins

    A login stands while its row is there and its user is active.  Most calls do
    not touch it, even if they overtake each other, and no call brings a login
    back that is gone:

    * `LoginRow.standing`, `noLogin` — the two as pacts;
    * `Event.Issues`, `Event.Touches` — the calls that give out a token, and those
      that may end a login;
    * `upholds_standing`, `upholds_noLogin` — what all others keep to. -/

namespace RobotMaze

open Time (Instant)

namespace Database

/-- The logins of a token. -/
def loginsOf (token : String) (db : Database) : List LoginRow :=
  db.logins.filter fun r => r.token == token

/-- There is an active account of this id. -/
def HasActiveUser (id : Int) (db : Database) : Prop :=
  ∃ u, db.users.find? id = some u ∧ userIsActive u = true

/-- Removing logins removes them among those of a token as well. -/
theorem loginsOf_deleteLogins (token : String) (test : LoginRow → Bool) (db : Database) :
    (db.deleteLogins test).2.loginsOf token = (db.loginsOf token).filter fun r => !test r := by
  simp only [loginsOf, deleteLogins]
  rw [List.filter_filter, List.filter_filter]
  exact List.filter_congr fun r _ => Bool.and_comm _ _

end Database

/-- No two accounts share an id, a login is the only one of its token, and its user is active. -/
structure LoginRow.Stands (r : LoginRow) (db : Database) : Prop where
  numbered : db.users.Numbered
  login : db.loginsOf r.token = [r]
  user : db.HasActiveUser r.userId

/-- A login stands. -/
def LoginRow.standing (r : LoginRow) : Pact Store := .always fun s => r.Stands s.database

/-- There is no login of a token. -/
def noLogin (token : String) : Pact Store := .always fun s => s.database.loginsOf token = []

theorem LoginRow.standing_sees (r : LoginRow) : r.standing.Sees Store.accounts := by
  intro s t hview hstands
  have husers : t.database.users = s.database.users := congrArg Prod.fst hview
  have hlogins : t.database.logins = s.database.logins := congrArg Prod.snd hview
  refine ⟨⟨?_, ?_, ?_⟩, trivial⟩
  · rw [husers]
    exact hstands.numbered
  · rw [Database.loginsOf, hlogins]
    exact hstands.login
  · rw [Database.HasActiveUser, husers]
    exact hstands.user

/-- A login still stands after what leaves users and logins as they are. -/
theorem LoginRow.Stands.of_accounts {r : LoginRow} {s t : Store} (h : r.Stands s.database)
    (ht : t.accounts = s.accounts) : r.Stands t.database :=
  (r.standing_sees s t ht h).1

theorem noLogin_sees (token : String) : (noLogin token).Sees fun s => s.database.logins :=
  Pact.always_sees (Q := fun logins : List LoginRow =>
    logins.filter (fun r => r.token == token) = [])

/-! ## Changes -/

section Changes

variable {r : LoginRow} {token : String}

/-- A new account leaves all logins standing. -/
theorem insertUser_upholds_standing {make : Int → UserRow} (hmake : ∀ id, Row.id (make id) = id) :
    (Op.change (Database.insertUser make)).Upholds r.standing := by
  refine fun s => Op.honours_change fun t _ hstands row db hchange => ⟨?_, trivial⟩
  obtain ⟨hnumbered, hlogin, u, hfind, hactive⟩ := hstands
  obtain ⟨users, hinsert, rfl⟩ := Database.insertUser_ok hchange
  refine ⟨hnumbered.insert hmake hinsert, hlogin, u, ?_, hactive⟩
  obtain ⟨id, -, -, -, rfl⟩ := Table.insert_ok hinsert
  exact Table.find?_append hfind _

/-- A change of another account leaves a login standing, and so does one that keeps the account
    active. -/
theorem modifyUser_upholds_standing {id : Int} {condition : Database → UserRow → Bool}
    {f : UserRow → UserRow} (hid : ∀ u, Row.id (f u) = Row.id u)
    (hactive : id = r.userId → ∀ u, Database.userIsActive u = true →
      Database.userIsActive (f u) = true) :
    (Op.change (Database.modifyUser id condition f)).Upholds r.standing := by
  refine fun s => Op.honours_change fun t _ hstands n db hchange => ⟨?_, trivial⟩
  obtain ⟨hnumbered, hlogin, huser⟩ := hstands
  obtain ⟨users, hmodify, rfl⟩ := Database.modifyUser_ok hchange
  refine ⟨hnumbered.modify hid hmodify, hlogin, ?_⟩
  rcases Table.modify_ok hmodify with ⟨-, rfl⟩ | ⟨-, -, -, -, -, rfl⟩
  · exact huser
  · exact Table.exists_find?_changed hid hactive huser

/-- Logins are removed without the one that stands. -/
theorem deleteLogins_upholds_standing {test : LoginRow → Bool} (htest : test r = false) :
    (Op.change fun db => .ok (db.deleteLogins test)).Upholds r.standing := by
  refine fun s => Op.honours_change fun t _ hstands n db hchange => ⟨?_, trivial⟩
  obtain ⟨hnumbered, hlogin, huser⟩ := hstands
  cases hchange
  refine ⟨hnumbered, ?_, huser⟩
  show (t.database.deleteLogins test).2.loginsOf r.token = [r]
  rw [Database.loginsOf_deleteLogins, hlogin, List.filter_cons_of_pos (by rw [htest]; rfl)]
  rfl

theorem deleteLogins_upholds_noLogin (test : LoginRow → Bool) :
    (Op.change fun db => .ok (db.deleteLogins test)).Upholds (noLogin token) := by
  refine fun s => Op.honours_change fun t _ hnone n db hchange => ⟨?_, trivial⟩
  have hnone : t.database.loginsOf token = [] := hnone
  cases hchange
  show (t.database.deleteLogins test).2.loginsOf token = []
  rw [Database.loginsOf_deleteLogins, hnone, List.filter_nil]

/-- The logins of a token stay the same when a login with another token is added. -/
theorem Database.loginsOf_append {db : Database} {session : LoginSession}
    (htoken : session.token ≠ token) :
    loginsOf token { db with logins := db.logins ++ [session.row] } = db.loginsOf token := by
  have hother : [session.row].filter (fun r => r.token == token) = [] := by
    refine List.filter_eq_nil_iff.mpr fun row hrow => ?_
    rw [List.mem_singleton.mp hrow]
    exact mt beq_iff_eq.mp htoken
  simp only [loginsOf]
  rw [List.filter_append, hother, List.append_nil]

theorem insertLogin_upholds_standing {session : LoginSession} (htoken : session.token ≠ r.token) :
    (Op.change (Database.insertLogin session)).Upholds r.standing := by
  refine fun s => Op.honours_change fun t _ hstands u db hchange => ⟨?_, trivial⟩
  obtain ⟨hnumbered, hlogin, huser⟩ := hstands
  obtain ⟨-, -, rfl⟩ := Database.insertLogin_ok hchange
  exact ⟨hnumbered, (Database.loginsOf_append htoken).trans hlogin, huser⟩

theorem insertLogin_upholds_noLogin {session : LoginSession} (htoken : session.token ≠ token) :
    (Op.change (Database.insertLogin session)).Upholds (noLogin token) := by
  refine fun s => Op.honours_change fun t _ hnone u db hchange => ⟨?_, trivial⟩
  obtain ⟨-, -, rfl⟩ := Database.insertLogin_ok hchange
  exact (Database.loginsOf_append htoken).trans hnone

end Changes

/-! ## Calls -/

/-- A call gives out a token, if it succeeds. -/
def Event.Issues (token : String) (e : Event) : Prop :=
  match e.call with
  | .logins (.openFor _ given _ _) | .logins (.logIn _ _ given _ _) => given = token
  | _ => False

/-- A call may end a login. -/
def Event.Touches (r : LoginRow) (e : Event) : Prop :=
  match e.call with
  | .users (.delete id _) | .users (.endLogins id) => id = r.userId
  | .users (.update id c _ _) => id = r.userId ∧ c.isActive = some false
  | .logins (.close token) | .logins (.resolve token) | .logins (.logOut token _) =>
      token = r.token
  | .logins .purge => True
  | _ => False

/-- No call brings a login back, if none gives out its token. -/
theorem upholds_noLogin {token : String} {e : Event} (hfresh : ¬ e.Issues token) :
    (e.call.op e.now).2.Upholds (noLogin token) := by
  have husers : BesideUsers fun s => s.database.logins := fun _ _ => rfl
  have hinsert := fun make => (Op.keeps_insertUser husers make).upholds (noLogin_sees token)
  have hmodify := fun id condition f =>
    (Op.keeps_modifyUser husers id condition f).upholds (noLogin_sees token)
  have hclose : ∀ other, (Logins.close other).Upholds (noLogin token) := fun other =>
    Op.upholds_bind (deleteLogins_upholds_noLogin _) fun _ => Op.upholds_pure _
  have hlogin : ∀ {given : String}, given ≠ token → ∀ session : LoginSession,
      session.token = given → (Op.change (Database.insertLogin session)).Upholds (noLogin token) :=
    fun hother session hsession => insertLogin_upholds_noLogin (hsession ▸ hother)
  refine Event.upholds (Pact.Sees.of_part Prod.snd (noLogin_sees token)) ?_
  obtain ⟨now, c⟩ := e
  cases c with
  | users c =>
      cases c with
      | create | ensureFirstAdmin => exact fun _ _ _ _ => hinsert _
      | update => exact ⟨fun _ _ _ _ => hmodify _ _ _, fun _ => deleteLogins_upholds_noLogin _⟩
      | delete => exact ⟨hmodify _ _ _, deleteLogins_upholds_noLogin _⟩
      | reactivate => exact hmodify _ _ _
      | changePassword => exact fun _ => hmodify _ _ _
      | authenticate => exact fun _ => hmodify _ _ _
      | endLogins => exact deleteLogins_upholds_noLogin _
      | _ => trivial
  | logins c =>
      cases c with
      | openFor u given => exact fun session hsession _ => hlogin hfresh session hsession
      | logIn username password given =>
          exact ⟨fun _ => hmodify _ _ _, fun session hsession => hlogin hfresh session hsession⟩
      | close other => exact hclose other
      | resolve other => exact hclose other
      | logOut other => exact hclose other
      | purge => exact deleteLogins_upholds_noLogin _
  | _ => trivial

/-- A call that does not give out the token of a standing login and does not touch it leaves it
    standing. -/
theorem upholds_standing {r : LoginRow} {e : Event} (hfresh : ¬ e.Issues r.token)
    (huntouched : ¬ e.Touches r) : (e.call.op e.now).2.Upholds r.standing := by
  have hclose : ∀ {token : String}, token ≠ r.token →
      (Logins.close token).Upholds r.standing := fun hother =>
    Op.upholds_bind (deleteLogins_upholds_standing (beq_eq_false_iff_ne.mpr hother.symm))
      fun _ => Op.upholds_pure _
  have hend : ∀ {id : Int}, id ≠ r.userId → (Users.endLogins id).Upholds r.standing := fun hother =>
    deleteLogins_upholds_standing (beq_eq_false_iff_ne.mpr hother.symm)
  have hlogin : ∀ {given : String}, given ≠ r.token → ∀ session : LoginSession,
      session.token = given → (Op.change (Database.insertLogin session)).Upholds r.standing :=
    fun hother session hsession => insertLogin_upholds_standing (hsession ▸ hother)
  refine Event.upholds r.standing_sees ?_
  obtain ⟨now, c⟩ := e
  cases c with
  | users c =>
      cases c with
      | create | ensureFirstAdmin => exact fun _ _ _ _ => insertUser_upholds_standing fun _ => rfl
      | update id c =>
          refine ⟨fun checked hash _ hflag => ?_, fun hinactive => ?_⟩
          · refine modifyUser_upholds_standing (fun _ => rfl) fun hid u hu => ?_
            -- the account is the one of the login, so the change does not deactivate it
            have hstays : c.isActive ≠ some false := fun h => huntouched ⟨hid, h⟩
            simp only [Database.userIsActive, Users.changeRow, hflag]
            cases hc : c.isActive with
            | none => exact hu
            | some active =>
                cases active with
                | true => rfl
                | false => exact absurd hc hstays
          · exact hend fun hid => huntouched ⟨hid, hinactive⟩
      | delete id =>
          refine ⟨modifyUser_upholds_standing (fun _ => rfl) fun hid => ?_, hend huntouched⟩
          exact absurd hid huntouched
      | reactivate => exact modifyUser_upholds_standing (fun _ => rfl) fun _ _ _ => rfl
      | changePassword =>
          exact fun _ => modifyUser_upholds_standing (fun _ => rfl) fun _ _ hu => hu
      | authenticate => exact fun _ => modifyUser_upholds_standing (fun _ => rfl) fun _ _ hu => hu
      | endLogins => exact hend huntouched
      | _ => trivial
  | logins c =>
      cases c with
      | openFor u given => exact fun session hsession _ => hlogin hfresh session hsession
      | logIn username password given =>
          exact ⟨fun _ => modifyUser_upholds_standing (fun _ => rfl) fun _ _ hu => hu,
            fun session hsession => hlogin hfresh session hsession⟩
      | close => exact hclose huntouched
      | resolve => exact hclose huntouched
      | logOut => exact hclose huntouched
      | purge => exact absurd trivial huntouched
  | _ => trivial

end RobotMaze
