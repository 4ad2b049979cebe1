import RobotMaze.Config.Settings
import RobotMaze.Service.AuditLog
import RobotMaze.Store.Users

/-! # Users as a service

    Every change of an account is recorded in the audit log.  The last active
    administrator can be neither deleted nor deactivated nor given another role.

    * `create`, `update`, `delete`, `reactivate`, `changePassword` — changes;
      deleting deactivates and ends the logins of the account;
    * `get`, `page`, `search`, … — reading;
    * `ensureFirstAdmin` — makes the first account of an empty store. -/

namespace RobotMaze.Users

open Time (Instant)
open Database (UserFilter)

/-- The name of accounts in the audit log. -/
def resource : String := "USER"

/-- Starts the event of an action on an account. -/
def event (a : Actor) (action : String) (kind : AuditAction) (u : User) : AuditEvent :=
  (a.event action kind resource).onResource (toString u.id) u.username

/-! ## Reading -/

/-- The accounts of rows. -/
def readAll (rows : List UserRow) : Op (List User) := Op.ofRead (rows.mapM UserRow.read)

/-- An account. -/
def get (id : Int) : Op User := do
  match ← Op.query (Database.userById id) with
  | some row => Op.ofRead row.read
  | none => throw (.notFound .user (toString id))

/-- The account of a username, active or not. -/
def find (username : String) : Op (Option User) := do
  match ← Op.query (Database.userByName username) with
  | some row => return some (← Op.ofRead row.read)
  | none => return none

/-- The active accounts whose full name contains a term, by full name. -/
def search (term : String) : Op (List User) := do
  readAll (← Op.query (Database.searchUsers term))

/-- One page of the accounts that a filter accepts. -/
def page (f : UserFilter) (p : PageRequest) : Op (Page User) := do
  let total ← Op.query fun db => (db.usersAccepted f).length
  let rows ← Op.queryRead (Database.pageOfUsers f p)
  return Page.new (← readAll rows) p total

/-- The numbers of active accounts by role. -/
def roles : Op RoleCounts :=
  Op.query fun db =>
    ⟨db.countActiveUsers, db.countActiveRole .admin, db.countActiveRole .superAdmin⟩

/-- The number of accounts. -/
def count : Op Nat := Op.query Database.countUsers

/-- The number of active accounts. -/
def countActive : Op Nat := Op.query Database.countActiveUsers

/-- Whether no account has a username, apart from one account. -/
def isUsernameAvailable (username : String) (except : Option Int) : Op Bool := do
  return (← Op.query (Database.countUsername username (except.getD (-1)))) == 0

/-- Whether no account has an address in any case, apart from one account. -/
def isEmailAvailable (email : String) (except : Option Int) : Op Bool := do
  return (← Op.query (Database.countEmail email (except.getD (-1)))) == 0

/-! ## Changes -/

/-- The hash of a password. -/
def hash (hashing : Hashing) (password : String) : Op PasswordHash :=
  match PasswordHash.make hashing password with
  | some hash => pure hash
  | none => throw .hashing

/-- Fails if another account has the username. -/
def requireUsername (username : String) (except : Option Int) : Op Unit := do
  if !(← isUsernameAvailable username except) then
    throw (.conflict .usernameTaken)

/-- Fails if another account has the address. -/
def requireEmail (email : String) (except : Option Int) : Op Unit := do
  if !(← isEmailAvailable email except) then
    throw (.conflict .emailTaken)

/-- Creates an account whose username and address no other account has. -/
def create (input : NewUser) (hashing : Hashing) (actor : Actor) (now : Instant) : Op User := do
  let checked ← Op.ofCheck input.check
  requireUsername checked.username none
  requireEmail checked.email none
  let hash ← hash hashing checked.password
  let fullName := checked.fullName.getD checked.username
  let row ← Op.change (Database.insertUser
    (Database.newUserRow checked fullName hash actor.username now))
  let u ← Op.ofRead row.read
  AuditLog.note (event actor "User created" .create u) now
  return u

/-- The row after a change, given the hash of a new password. -/
def changeRow (c : UserChange) (hash : Option PasswordHash) (r : UserRow) : UserRow :=
  { r with
    username := c.username.getD r.username
    email := c.email.getD r.email
    passwordHash := hash.getD r.passwordHash
    fullName := (NewUser.cleanName c.fullName).getD r.fullName
    role := c.role.getD r.role
    isActive := match c.isActive with
      | some isActive => flag isActive
      | none => r.isActive }

/-- Whether a change gives any field a new value. -/
def hasEffect (c : UserChange) : Bool :=
  c.username.isSome || c.email.isSome || c.newPassword.isSome
    || (NewUser.cleanName c.fullName).isSome || c.role.isSome || c.isActive.isSome

/-- Whether a change may take an administrator away. -/
def removesAdmin (c : UserChange) : Bool :=
  c.isActive == some false || (match c.role with
    | some role => role != .admin
    | none => false)

/-- Ends all logins of an account. -/
def endLogins (id : Int) : Op Nat :=
  Op.change fun db => .ok (db.deleteLogins fun r => r.userId == id)

/-- Checks the fields of a change; returns the change in clean form and the hash of a new
    password. -/
def checkChange (id : Int) (c : UserChange) (hashing : Hashing) :
    Op (UserChange × Option PasswordHash) := do
  let checked ← Op.ofCheck c.check
  if let some username := checked.username then
    requireUsername username (some id)
  if let some email := checked.email then
    requireEmail email (some id)
  let hash ← c.newPassword.mapM (hash hashing)
  return (checked, hash)

/-- Changes fields of an account.  A blank password or full name changes nothing. -/
def update (id : Int) (c : UserChange) (hashing : Hashing) (actor : Actor) (now : Instant) :
    Op User := do
  let current ← get id
  let (checked, hash) ← checkChange id c hashing
  if !hasEffect checked then
    return current
  let guarded := removesAdmin c
  let condition := fun db row => !guarded || Database.leavesAdmin db row
  let changed ← Op.change (Database.modifyUser id condition (changeRow checked hash))
  if changed = 0 then
    if guarded then throw (.conflict .lastAdminRemoved)
    else throw (.notFound .user (toString id))
  if c.isActive = some false then
    let _ ← endLogins id
  let updated ← get id
  AuditLog.note ((event actor "User updated" .update updated).withDetails c.toJson.render) now
  return updated

/-- Deactivates an account and ends its logins. -/
def delete (id : Int) (actor : Actor) (now : Instant) : Op Unit := do
  let u ← get id
  if actor.username = some u.username then
    throw (.conflict .ownAccount)
  if !u.isActive then
    return ()
  let condition := fun db row => Database.userIsActive row && Database.leavesAdmin db row
  let changed ← Op.change (Database.modifyUser id condition fun r => { r with isActive := 0 })
  if changed = 0 then
    if (← get id).isActive then throw (.conflict .lastAdminDeleted)
    else return ()
  let _ ← endLogins id
  AuditLog.note (event actor "User deleted" .delete u) now

/-- Activates an account. -/
def reactivate (id : Int) (actor : Actor) (now : Instant) : Op User := do
  let u ← get id
  if u.isActive then
    return u
  let _ ← Op.change (Database.modifyUser id (fun _ _ => true) fun r => { r with isActive := 1 })
  AuditLog.note (event actor "User reactivated" .update u) now
  get id

/-- Gives an account another password. -/
def changePassword (id : Int) (password : String) (hashing : Hashing) (actor : Actor)
    (now : Instant) : Op Unit := do
  Op.ofCheck (User.checkPassword password)
  let u ← get id
  let hash ← hash hashing password
  let _ ← Op.change (Database.modifyUser id (fun _ _ => true) fun r =>
    { r with passwordHash := hash })
  AuditLog.note (event actor "Password changed" .update u) now

/-- The account of a username and its password, with the time of the login put into it. -/
def authenticate (username password : String) (now : Instant) : Op User := do
  match ← find username with
  | none => throw .badCredentials
  | some u =>
      if !u.isActive || !u.passwordHash.verify password then
        throw .badCredentials
      let _ ← Op.change (Database.modifyUser u.id (fun _ _ => true) fun r =>
        { r with lastLogin := some now.stamp })
      return { u with lastLogin := some now }

/-- Creates the first account, if there is none at all. -/
def ensureFirstAdmin (config : FirstAdmin) (hashing : Hashing) (now : Instant) :
    Op (Option User) := do
  if !config.enabled then
    return none
  if 0 < (← count) then
    return none
  let input : NewUser :=
    { username := config.username
      email := config.email
      password := config.password
      fullName := some config.fullName
      role := .admin
      isActive := true }
  return some (← create input hashing .system now)

end RobotMaze.Users
