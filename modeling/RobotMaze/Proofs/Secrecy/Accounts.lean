import RobotMaze.Proofs.Secrecy.Services

/-! # Accounts and their passwords

    The service for users takes in passwords and keeps hashes of them.  With
    other passwords it does the same, as far as can be seen, as long as their
    checks have the same outcomes:

    * `NewUser.shown`, `UserChange.shown`, `FirstAdmin.shown` — what can be seen
      of the input: all but the password, and the checks of the password by
      itself;
    * `Users.twins_create`, `Users.twins_update`, … — changes of accounts;
    * `Users.verdict` — whether a password that is tried fits, and
      `Logins.twinsWhen_logIn` — logins on which the verdict is the same. -/

namespace RobotMaze

open Time (Instant)

/-! ## What can be seen of the input -/

/-- A new account without its password, and whether that is long enough. -/
def NewUser.shown (u : NewUser) : NewUser × Except Violation Unit :=
  ({ u with password := "" }, User.checkPassword u.password)

/-- A change without the password, and whether that is long enough unless it is blank. -/
def UserChange.shown (c : UserChange) : UserChange × Option (Except Violation Unit) :=
  ({ c with password := none }, c.newPassword.map User.checkPassword)

/-- The first account without its password, and whether that is long enough. -/
def FirstAdmin.shown (a : FirstAdmin) : FirstAdmin × Except Violation Unit :=
  ({ a with password := "" }, User.checkPassword a.password)

/-- Two inputs that look the same differ in the password only. -/
theorem NewUser.exists_of_shown_eq {u v : NewUser} (h : u.shown = v.shown) :
    ∃ password, v = { u with password }
      ∧ User.checkPassword password = User.checkPassword u.password := by
  obtain ⟨username, email, password, fullName, role, isActive⟩ := u
  obtain ⟨hfields, hcheck⟩ := Prod.mk.inj h
  obtain ⟨rfl, rfl, -, rfl, rfl, rfl⟩ := NewUser.mk.inj hfields
  exact ⟨v.password, rfl, hcheck.symm⟩

/-- A password for which the checks have the same outcomes does not show. -/
theorem NewUser.shown_with_password {u : NewUser} {password : String}
    (h : User.checkPassword password = User.checkPassword u.password) :
    u.shown = ({ u with password } : NewUser).shown := Prod.ext rfl h.symm

/-- Changes that look the same differ in the new password only, and in no check of it. -/
theorem UserChange.exists_of_shown_eq {c d : UserChange} (h : c.shown = d.shown) :
    ∃ password, d = { c with password }
      ∧ (d.newPassword.map User.checkPassword) = c.newPassword.map User.checkPassword := by
  obtain ⟨username, email, password, fullName, role, isActive⟩ := c
  obtain ⟨hfields, hcheck⟩ := Prod.mk.inj h
  obtain ⟨rfl, rfl, -, rfl, rfl, rfl⟩ := UserChange.mk.inj hfields
  exact ⟨d.password, rfl, hcheck.symm⟩

/-- First administrators that look the same differ in the password only, and in no check of it. -/
theorem FirstAdmin.exists_of_shown_eq {a b : FirstAdmin} (h : a.shown = b.shown) :
    ∃ password, b = { a with password }
      ∧ User.checkPassword password = User.checkPassword a.password := by
  obtain ⟨enabled, username, password, email, fullName⟩ := a
  obtain ⟨hfields, hcheck⟩ := Prod.mk.inj h
  obtain ⟨rfl, rfl, -, rfl, rfl⟩ := FirstAdmin.mk.inj hfields
  exact ⟨b.password, rfl, hcheck.symm⟩

/-- What comes after one computation looks the same when it does so after each outcome. -/
theorem map_bind_congr {ε α β γ : Type} {x : Except ε α} {f g : α → Except ε β} {look : β → γ}
    (h : ∀ a, (f a).map look = (g a).map look) : (x >>= f).map look = (x >>= g).map look := by
  cases x with
  | ok a => exact h a
  | error e => rfl

/-- Inputs that look the same break the same rule first, or none. -/
theorem NewUser.map_check {u v : NewUser} (h : u.shown = v.shown) :
    u.check.map shown = v.check.map shown := by
  obtain ⟨password, rfl, hcheck⟩ := exists_of_shown_eq h
  simp only [check]
  refine map_bind_congr fun username => map_bind_congr fun email => ?_
  rw [hcheck]
  refine map_bind_congr fun _ => ?_
  simp only [pure, Except.pure, Except.map, shown, hcheck]

/-- Changes that look the same pass the same checks, with the same refusal. -/
theorem UserChange.map_check {c d : UserChange} (h : c.shown = d.shown) :
    c.check.map shown = d.check.map shown := by
  obtain ⟨password, rfl, hcheck⟩ := exists_of_shown_eq h
  simp only [check]
  refine map_bind_congr fun username => map_bind_congr fun email => ?_
  have hchanged : ({ c with username, email } : UserChange).shown
      = ({ c with password, username, email } : UserChange).shown :=
    Prod.ext rfl hcheck.symm
  cases hnew : c.newPassword with
  | none =>
      rw [hnew] at hcheck
      rw [Option.map_eq_none_iff.mp hcheck]
      exact congrArg Except.ok hchanged
  | some p =>
      rw [hnew] at hcheck
      obtain ⟨q, hq, hpassword⟩ := Option.map_eq_some_iff.mp hcheck
      rw [hq]
      show (User.checkPassword p >>= fun _ => _ : Except Violation UserChange).map _
        = (User.checkPassword q >>= fun _ => _ : Except Violation UserChange).map _
      rw [hpassword]
      exact map_bind_congr fun _ => congrArg Except.ok hchanged

/-! ## Accounts as they are written -/

/-- An account is written without its hash. -/
theorem User.toJson_congr {u u' : User} (h : u.withoutHash = u'.withoutHash) :
    u.toJson = u'.toJson := by
  obtain ⟨passwordHash, rfl⟩ := exists_of_withoutHash_eq h
  rfl

/-- Accounts are written without their hashes. -/
theorem User.list_toJson_congr {us us' : List User}
    (h : us.map withoutHash = us'.map withoutHash) :
    Json.list toJson us = Json.list toJson us' := by
  have hjson := congrArg (List.map toJson) h
  rw [List.map_map, List.map_map] at hjson
  exact congrArg Json.array hjson

/-- A page of accounts is written without their hashes. -/
theorem Page.toJson_congr {page page' : Page User}
    (h : page.map User.withoutHash = page'.map User.withoutHash) :
    page.toJson User.toJson = page'.toJson User.toJson := by
  obtain ⟨hcontent, helements, hpages, hnumber, hsize, hfirst, hlast⟩ := Page.mk.inj h
  simp only [toJson, User.list_toJson_congr hcontent, helements, hpages, hnumber, hsize, hfirst,
    hlast]

/-! ## Rows of accounts -/

namespace Op

/-- Accounts that look the same are inserted the same, or refused the same. -/
theorem twins_insertUser {make make' : Int → UserRow}
    (h : ∀ id, (make id).withoutHash = (make' id).withoutHash) :
    Twins UserRow.withoutHash (change (Database.insertUser make))
      (change (Database.insertUser make')) := by
  refine twins_change (fun db => db.insertUser_withoutHashes make) fun db => ?_
  rw [funext h]
  exact db.insertUser_withoutHashes make'

/-- Changes of an account that take it to rows that look the same are twins, where the condition
looks at no hash. -/
theorem twins_modifyUser {id : Int} {condition : Database → UserRow → Bool}
    {f g : UserRow → UserRow} (common : UserRow → UserRow)
    (hcondition : ∀ db r, condition (Database.withoutHashes db) r.withoutHash = condition db r)
    (hf : ∀ r, common r.withoutHash = (f r).withoutHash)
    (hg : ∀ r, common r.withoutHash = (g r).withoutHash) :
    Twins (fun n : Nat => n) (change (Database.modifyUser id condition f))
      (change (Database.modifyUser id condition g)) :=
  twins_change (fun db => db.modifyUser_withoutHashes id (hcondition db) hf)
    fun db => db.modifyUser_withoutHashes id (hcondition db) hg

/-- Rows that look the same are read as accounts that do. -/
theorem twins_read {r r' : UserRow} (h : r.withoutHash = r'.withoutHash) :
    Twins User.withoutHash (ofRead r.read) (ofRead r'.read) :=
  twins_ofRead (by rw [← UserRow.read_withoutHash, h, UserRow.read_withoutHash])

end Op

namespace Users

/-! ## Reading -/

theorem twins_readAll {rows rows' : List UserRow}
    (h : rows.map UserRow.withoutHash = rows'.map UserRow.withoutHash) :
    Twins (List.map User.withoutHash) (readAll rows) (readAll rows') :=
  Op.twins_ofRead
    (by rw [← UserRow.mapM_read_withoutHash, h, UserRow.mapM_read_withoutHash])

/-- An account is shown without its hash. -/
theorem twins_get (id : Int) : Twins User.withoutHash (get id) (get id) := by
  have hquery := Op.twins_query (f := Database.userById id) fun db => db.userById_withoutHashes id
  simp only [get]
  refine hquery.bind fun row row' hrow => ?_
  rcases option_map_eq_map_iff.mp hrow with ⟨rfl, rfl⟩ | ⟨r, r', rfl, rfl, hr⟩
  · exact twins_throw _
  · exact Op.twins_read hr

/-- The account of a row, if one was found. -/
def readFound : Option UserRow → Op (Option User)
  | some row => do return some (← Op.ofRead row.read)
  | none => return none

/-- Finding an account is asking for its row and reading it. -/
theorem find_eq_readFound (username : String) :
    find username = Op.query (Database.userByName username) >>= readFound :=
  congrArg (Op.query (Database.userByName username) >>= ·) (funext fun row => by cases row <;> rfl)

/-- An account is found by its name, or not, the same in both stores. -/
theorem twins_find (username : String) :
    Twins (Option.map User.withoutHash) (find username) (find username) := by
  have hquery := Op.twins_query (f := Database.userByName username) fun db =>
    db.userByName_withoutHashes username
  rw [find_eq_readFound]
  refine hquery.bind fun row row' hrow => ?_
  rcases option_map_eq_map_iff.mp hrow with ⟨rfl, rfl⟩ | ⟨r, r', rfl, rfl, hr⟩
  · exact twins_pure rfl
  · exact (Op.twins_read hr).bind fun u u' hu => twins_pure (congrArg some hu)

/-- A search finds accounts that look the same. -/
theorem twins_search (term : String) :
    Twins (List.map User.withoutHash) (search term) (search term) :=
  (Op.twins_query (f := Database.searchUsers term) fun db =>
    db.searchUsers_withoutHashes term).bind fun _ _ hrows => twins_readAll hrows

/-- A page holds accounts that look the same. -/
theorem twins_page (f : Database.UserFilter) (p : PageRequest) :
    Twins (Page.map User.withoutHash) (page f p) (page f p) := by
  have hcount : Blind (Op.query fun db => (db.usersAccepted f).length) :=
    Op.blind_query fun db => by rw [db.usersAccepted_withoutHashes, List.length_map]
  have hrows := Op.twins_queryRead (f := Database.pageOfUsers f p) fun db =>
    db.pageOfUsers_withoutHashes f p
  simp only [page]
  refine hcount.bind fun total => hrows.bind fun rows rows' hrows => ?_
  refine (twins_readAll hrows).bind fun users users' husers => twins_pure ?_
  show Page.new (users.map User.withoutHash) p total = Page.new (users'.map _) p total
  rw [husers]

@[grind ←]
theorem blind_count : Blind count := Op.blind_query Database.countUsers_withoutHashes

/-- Whether a username is taken does not depend on a hash. -/
@[grind ←]
theorem blind_requireUsername (username : String) (except : Option Int) :
    Blind (requireUsername username except) := by
  have hquery : Blind (Op.query (Database.countUsername username (except.getD (-1)))) :=
    Op.blind_query fun db => db.countUsername_withoutHashes username _
  simp only [requireUsername, isUsernameAvailable]
  grind

/-- Whether an address is taken does not depend on a hash. -/
@[grind ←]
theorem blind_requireEmail (email : String) (except : Option Int) :
    Blind (requireEmail email except) := by
  have hquery : Blind (Op.query (Database.countEmail email (except.getD (-1)))) :=
    Op.blind_query fun db => db.countEmail_withoutHashes email _
  simp only [requireEmail, isEmailAvailable]
  grind

/-! ## Changes -/

/-- What is recorded of an account does not depend on its hash. -/
theorem event_congr {u u' : User} (h : u.withoutHash = u'.withoutHash) (a : Actor)
    (action : String) (kind : AuditAction) : event a action kind u = event a action kind u' := by
  show event a action kind u.withoutHash = event a action kind u'.withoutHash
  rw [h]

/-- Whether a hash can be made depends on the work factor only. -/
theorem twins_hash (hashing : Hashing) (password password' : String) :
    Twins (fun _ => ()) (hash hashing password) (hash hashing password') := by
  simp only [hash, PasswordHash.make]
  by_cases h : PasswordHash.minCost ≤ hashing.cost ∧ hashing.cost ≤ PasswordHash.maxCost
  · rw [if_pos h, if_pos h]
    exact twins_pure rfl
  · rw [if_neg h, if_neg h]
    exact twins_throw _

/-- Accounts that differ in the password only are created, or refused, the same. -/
theorem twins_create {input input' : NewUser} (h : input.shown = input'.shown) (hashing : Hashing)
    (actor : Actor) (now : Instant) :
    Twins User.withoutHash (create input hashing actor now) (create input' hashing actor now) := by
  simp only [create]
  refine (Op.twins_ofCheck (NewUser.map_check h)).bind fun checked checked' hchecked => ?_
  obtain ⟨password, rfl, -⟩ := NewUser.exists_of_shown_eq hchecked
  refine (blind_requireUsername _ _).bind fun _ => (blind_requireEmail _ _).bind fun _ => ?_
  refine (twins_hash hashing _ _).bind fun hash hash' _ => ?_
  -- the rows differ in the hash, and so do the accounts read from them
  refine Twins.bind (Op.twins_insertUser fun id => rfl) fun row row' hrow => ?_
  refine (Op.twins_read hrow).bind fun u u' hu => ?_
  rw [event_congr hu]
  exact (AuditLog.blind_note _ _).bind fun _ => twins_pure hu

/-- The first administrator is created, or not, the same whatever the password is. -/
theorem twins_ensureFirstAdmin {config config' : FirstAdmin} (h : config.shown = config'.shown)
    (hashing : Hashing) (now : Instant) :
    Twins (Option.map User.withoutHash) (ensureFirstAdmin config hashing now)
      (ensureFirstAdmin config' hashing now) := by
  obtain ⟨password, rfl, hcheck⟩ := FirstAdmin.exists_of_shown_eq h
  simp only [ensureFirstAdmin]
  split
  · exact twins_pure rfl
  · refine blind_count.bind fun n => ?_
    split
    · exact twins_pure rfl
    · refine Twins.bind (twins_create ?_ hashing .system now) fun u u' hu =>
        twins_pure (congrArg some hu)
      exact NewUser.shown_with_password hcheck

/-- What can be seen of a change that passed its checks: the change, and whether there is a hash. -/
theorem twins_checkChange (id : Int) {c c' : UserChange} (h : c.shown = c'.shown)
    (hashing : Hashing) : Twins (Prod.map UserChange.shown Option.isSome) (checkChange id c hashing)
      (checkChange id c' hashing) := by
  have hhash : Twins Option.isSome (c.newPassword.mapM (hash hashing))
      (c'.newPassword.mapM (hash hashing)) := by
    rcases option_map_eq_map_iff.mp (congrArg Prod.snd h) with ⟨hc, hc'⟩ | ⟨p, p', hc, hc', -⟩
    · rw [hc, hc']
      exact twins_pure rfl
    · rw [hc, hc']
      exact (twins_hash hashing p p').bind fun _ _ _ => twins_pure rfl
  simp only [checkChange]
  refine (Op.twins_ofCheck (UserChange.map_check h)).bind fun checked checked' hchecked => ?_
  obtain ⟨password, rfl, -⟩ := UserChange.exists_of_shown_eq hchecked
  have hlast : Twins (Prod.map UserChange.shown Option.isSome)
      (c.newPassword.mapM (hash hashing) >>= fun hash => pure (checked, hash))
      (c'.newPassword.mapM (hash hashing) >>= fun hash => pure ({ checked with password }, hash)) :=
    hhash.bind fun hash hash' hsome => twins_pure (Prod.ext hchecked hsome)
  dsimp only
  split
  · refine (blind_requireUsername _ _).bind fun _ => ?_
    split
    · exact (blind_requireEmail _ _).bind fun _ => hlast
    · exact hlast
  · split
    · exact (blind_requireEmail _ _).bind fun _ => hlast
    · exact hlast

@[grind ←]
theorem blind_endLogins (id : Int) : Blind (endLogins id) := Op.blind_deleteLogins _

/-- Whether a change has any effect does not depend on which password it sets. -/
theorem hasEffect_congr {c c' : UserChange} (h : c.shown = c'.shown) :
    hasEffect c = hasEffect c' := by
  obtain ⟨password, rfl, hpassword⟩ := UserChange.exists_of_shown_eq h
  have hsome := congrArg Option.isSome hpassword
  rw [Option.isSome_map, Option.isSome_map] at hsome
  simp only [hasEffect, hsome]

/-- What is left of a changed row does not depend on which password it has got. -/
theorem changeRow_congr {c c' : UserChange} (h : c.shown = c'.shown)
    (hash hash' : Option PasswordHash) (r : UserRow) :
    (changeRow c hash r.withoutHash).withoutHash = (changeRow c' hash' r).withoutHash := by
  obtain ⟨password, rfl, -⟩ := UserChange.exists_of_shown_eq h
  rfl

/-- What is done with an account, apart from its hash, is done with whatever looks like it. -/
theorem twins_get_bind {α γ : Type} {look : α → γ} {f g : User → Op α}
    (hlooks : ∀ u, g u.withoutHash = g u) (h : ∀ u, Twins look (f u) (g u)) (id : Int) :
    Twins look (get id >>= f) (get id >>= g) := by
  refine (twins_get id).bind fun u u' hu => ?_
  rw [← hlooks u', ← hu, hlooks]
  exact h u

/-- An account that is recorded as changed. -/
theorem twins_get_noted (id : Int) (details : String) (actor : Actor) (now : Instant) :
    Twins User.withoutHash
      (get id >>= fun u => do
        AuditLog.note ((event actor "User updated" .update u).withDetails details) now
        return u)
      (get id >>= fun u => do
        AuditLog.note ((event actor "User updated" .update u).withDetails details) now
        return u) := by
  refine (twins_get id).bind fun u u' hu => ?_
  rw [event_congr hu]
  exact (AuditLog.blind_note _ _).bind fun _ => twins_pure hu

/-- Updates that differ in the password only are done, or refused, the same. -/
theorem twins_update (id : Int) {c c' : UserChange} (h : c.shown = c'.shown) (hashing : Hashing)
    (actor : Actor) (now : Instant) :
    Twins User.withoutHash (update id c hashing actor now) (update id c' hashing actor now) := by
  obtain ⟨hremoves, hactive, hjson⟩ : removesAdmin c' = removesAdmin c ∧ c'.isActive = c.isActive
      ∧ c'.toJson = c.toJson := by
    obtain ⟨password, rfl, -⟩ := UserChange.exists_of_shown_eq h
    exact ⟨rfl, rfl, rfl⟩
  simp only [update, hremoves, hactive, hjson]
  refine (twins_get id).bind fun current current' hcurrent => ?_
  refine (twins_checkChange id h hashing).bind fun x x' hx => ?_
  obtain ⟨checked, hash⟩ := x
  obtain ⟨checked', hash'⟩ := x'
  obtain ⟨hchecked, -⟩ := Prod.mk.inj hx
  rw [hasEffect_congr hchecked]
  split
  · exact twins_pure hcurrent
  refine Twins.bind (Op.twins_modifyUser (fun r => (changeRow checked hash r).withoutHash)
    (fun db r => ?_) (fun _ => rfl) (changeRow_congr hchecked hash hash')) fun n n' hn => ?_
  · rw [db.leavesAdmin_withoutHashes]
  obtain rfl : n = n' := hn
  have hread := twins_get_noted id c.toJson.render actor now
  have hrest := twins_ite (p := c.isActive = some false)
    ((blind_endLogins id).bind fun _ => hread) hread
  exact twins_ite (twins_ite ((blind_throw _).bind fun _ => hrest)
    ((blind_throw _).bind fun _ => hrest)) hrest

/-- An account is deactivated the same, the guard of the last administrator included. -/
@[grind ←]
theorem blind_delete (id : Int) (actor : Actor) (now : Instant) : Blind (delete id actor now) := by
  have hchange : Blind (Op.change (Database.modifyUser id
      (fun db row => Database.userIsActive row && Database.leavesAdmin db row)
      fun r => { r with isActive := 0 })) :=
    Op.twins_modifyUser (fun r => { r with isActive := 0 })
      (fun db r => congrArg (Database.userIsActive r && ·) (db.leavesAdmin_withoutHashes r))
      (fun _ => rfl) fun _ => rfl
  have hnoted : ∀ u, Blind (do
      let _ ← endLogins id
      AuditLog.note (event actor "User deleted" .delete u) now) := fun u => by grind
  simp only [delete]
  refine twins_get_bind (fun _ => rfl) (fun u => ?_) id
  have hlast : Blind (endLogins id >>= fun _ =>
      AuditLog.note (event actor "User deleted" .delete u) now) := by grind
  refine twins_unless (twins_ite (twins_pure rfl) ?_)
  refine hchange.bind fun changed => twins_ite ?_ hlast
  refine twins_get_bind (fun _ => rfl) (fun v => ?_) id
  exact twins_ite ((blind_throw _).bind fun _ => hlast) (twins_pure rfl)

/-- An account is reactivated the same. -/
theorem twins_reactivate (id : Int) (actor : Actor) (now : Instant) :
    Twins User.withoutHash (reactivate id actor now) (reactivate id actor now) := by
  have hchange : Blind (Op.change (Database.modifyUser id (fun _ _ => true)
      fun r => { r with isActive := 1 })) :=
    Op.twins_modifyUser (fun r => { r with isActive := 1 }) (fun _ _ => rfl) (fun _ => rfl)
      fun _ => rfl
  simp only [reactivate]
  refine (twins_get id).bind fun u u' hu => ?_
  obtain ⟨passwordHash, rfl⟩ := User.exists_of_withoutHash_eq hu
  refine twins_ite (twins_pure hu) ?_
  exact hchange.bind fun _ => (AuditLog.blind_note _ _).bind fun _ => twins_get id

/-- Passwords that pass or fail the rule alike are set the same. -/
theorem twins_changePassword (id : Int) {password password' : String}
    (h : User.checkPassword password = User.checkPassword password') (hashing : Hashing)
    (actor : Actor)
    (now : Instant) :
    Twins (fun u => u) (changePassword id password hashing actor now)
      (changePassword id password' hashing actor now) := by
  simp only [changePassword, h]
  refine (Op.blind_ofCheck _).bind fun _ => twins_get_bind (fun _ => rfl) (fun u => ?_) id
  refine (twins_hash hashing _ _).bind fun hash hash' _ => ?_
  refine Twins.bind (Op.twins_modifyUser UserRow.withoutHash (fun _ _ => rfl) (fun _ => rfl)
    fun _ => rfl) fun _ _ _ => AuditLog.blind_note _ _

/-! ## Logins -/

/-- Whether a password that is tried fits the account of a username, if there is an active one.
    Otherwise no password is tried. -/
def verdict (username password : String) (db : Database) : Option Bool := do
  let row ← db.userByName username
  let u ← row.read.toOption
  if u.isActive then return u.passwordHash.verify password else none

/-- The verdict on a password is that on the account that the name leads to. -/
theorem verdict_of_find {username : String} {db : Database} {r : UserRow} {u : User}
    (hfound : db.userByName username = some r) (hread : r.read = .ok u) (password : String) :
    verdict username password db
      = if u.isActive then some (u.passwordHash.verify password) else none := by
  simp only [verdict, hfound, Option.bind_eq_bind, Option.bind_some, hread, Except.toOption]
  rfl

/-- Attempts under one name are twins where the passwords have one verdict. -/
theorem twinsWhen_authenticate (username password password' : String) (now : Instant) :
    TwinsWhen (fun s t => verdict username password s.database
        = verdict username password' t.database) User.withoutHash
      (authenticate username password now) (authenticate username password' now) := by
  refine .step (fun _ _ hview _ => hview) fun s t hview hverdict => ?_
  obtain ⟨hdb, -⟩ := Store.withoutHashes_eq_iff.mp hview
  have hrow : (s.database.userByName username).map UserRow.withoutHash
      = (t.database.userByName username).map UserRow.withoutHash := by
    rw [← Database.userByName_withoutHashes, hdb, Database.userByName_withoutHashes]
  show Twins User.withoutHash (readFound (s.database.userByName username) >>= _)
    (readFound (t.database.userByName username) >>= _)
  rcases option_map_eq_map_iff.mp hrow with ⟨hs, ht⟩ | ⟨r, r', hs, ht, hr⟩
  · rw [hs, ht]
    exact twins_throw _
  have hread : r.read.map User.withoutHash = r'.read.map User.withoutHash := by
    rw [← UserRow.read_withoutHash, hr, UserRow.read_withoutHash]
  rw [hs, ht]
  simp only [readFound]
  -- rows that look the same are read alike, and only of an active account a password is tried
  rcases map_eq_map_iff.mp hread with ⟨e, hr, hr'⟩ | ⟨u, u', hr, hr', hu⟩
  · rw [hr, hr']
    exact twins_throw e
  rw [verdict_of_find hs hr, verdict_of_find ht hr'] at hverdict
  rw [hr, hr']
  obtain ⟨passwordHash, rfl⟩ := User.exists_of_withoutHash_eq hu
  have hrejected : (!u.isActive || !u.passwordHash.verify password)
      = (!u.isActive || !passwordHash.verify password') := by
    cases hactive : u.isActive with
    | false => rfl
    | true => simpa [hactive] using hverdict
  show Twins User.withoutHash (if (!u.isActive || !u.passwordHash.verify password) = true then _
    else _) (if (!u.isActive || !passwordHash.verify password') = true then _ else _)
  rw [hrejected]
  refine twins_unless ?_
  refine Twins.bind (Op.twins_modifyUser (fun r => { r with lastLogin := some now.stamp })
    (fun _ _ => rfl) (fun _ => rfl) fun _ => rfl) fun _ _ _ => twins_pure rfl

end Users

namespace Logins

/-- Logging in with passwords on which the verdict is the same does the same. -/
theorem twinsWhen_logIn (username password password' token : String) (seconds : Int)
    (actor : Actor) (now : Instant) :
    TwinsWhen (fun s t => Users.verdict (Text.trim username) password s.database
        = Users.verdict (Text.trim username) password' t.database) (Prod.map User.withoutHash id)
      (logIn username password token seconds actor now)
      (logIn username password' token seconds actor now) := by
  simp only [logIn]
  refine TwinsWhen.bind (Op.twinsWhen_attempt (Users.twinsWhen_authenticate _ _ _ now))
    fun x x' hx => ?_
  rcases map_eq_map_iff.mp hx with ⟨e, rfl, rfl⟩ | ⟨u, u', rfl, rfl, hu⟩
  · -- one failure, of whatever kind, is recorded once or not at all
    split
    case h_1 => exact (AuditLog.blind_note _ _).bind fun _ => twins_throw _
    case h_2 => exact twins_throw _
    case h_3 h => cases h
  · obtain ⟨passwordHash, rfl⟩ := User.exists_of_withoutHash_eq hu
    have hopen : Blind (openFor u token seconds actor now) := by
      simp only [openFor]
      grind
    exact hopen.bind fun session => (AuditLog.blind_note _ _).bind fun _ =>
      twins_pure (Prod.ext hu rfl)

end Logins

end RobotMaze
