import RobotMaze.Store.Database
import RobotMaze.Text.Pattern
import RobotMaze.User.Change

/-! # The tables of users and of logins

    * `insertUser`, `modifyUser`, `pageOfUsers`, … — accounts;
    * `insertLogin`, `principalOf`, `deleteLogins` — who is logged in. -/

/-! ## The table of users

    Usernames and addresses are unique to the letter.  A change that takes an
    administrator away is made only while another active one is there; the
    condition is part of the change itself. -/

namespace RobotMaze.Database

open Time (Instant)

/-- Whether a row counts as active in a search. -/
def userIsActive (r : UserRow) : Bool := r.isActive == 1

/-- Whether a row is an active administrator. -/
def isActiveAdmin (r : UserRow) : Bool := userIsActive r && r.role == .admin

/-- A row must not share its username or its address with another one. -/
def userIsAcceptable (r : UserRow) (others : List UserRow) : Bool :=
  !others.any fun o => o.username == r.username || o.email == r.email

/-- Whether an active administrator is left when this row is none. -/
def leavesAdmin (db : Database) (r : UserRow) : Bool :=
  r.isActive == 0 || r.role != .admin || (db.users.others r.id).any isActiveAdmin

/-- The row of a new account. -/
def newUserRow (u : NewUser) (fullName : String) (hash : PasswordHash) (createdBy : Option String)
    (now : Instant) (id : Int) : UserRow :=
  { id
    username := u.username
    passwordHash := hash
    email := u.email
    fullName
    role := u.role
    isActive := flag u.isActive
    createdAt := now.stamp
    lastLogin := none
    createdBy }

/-- Adds an account. -/
def insertUser (make : Int → UserRow) (db : Database) : Except Failure (UserRow × Database) := do
  let (row, users) ← db.users.insert make userIsAcceptable
  return (row, { db with users })

/-- Changes an account that satisfies a condition. -/
def modifyUser (id : Int) (condition : Database → UserRow → Bool) (change : UserRow → UserRow)
    (db : Database) : Except Failure (Nat × Database) := do
  let (n, users) ← db.users.modify id (condition db) change userIsAcceptable
  return (n, { db with users })

/-- The row of an account. -/
def userById (id : Int) (db : Database) : Option UserRow := db.users.find? id

/-- The row of the account of a username. -/
def userByName (username : String) (db : Database) : Option UserRow :=
  db.users.rows.find? fun r => r.username == Text.trim username

/-- The active accounts whose full name contains a term, by full name. -/
def searchUsers (term : String) (db : Database) : List UserRow :=
  sortedBy (fun r => .text r.fullName) .ascending
    (db.users.rows.filter fun r =>
      userIsActive r && Text.Pattern.contains (Text.trim term) r.fullName)

/-- Which accounts a listing shows. -/
structure UserFilter where
  search : Option String := none
  role : Option Role := none
  deriving DecidableEq, Repr

/-- Whether a listing shows an account: a blank term is in every name. -/
def UserFilter.accepts (f : UserFilter) (r : UserRow) : Bool :=
  (match (f.search.map Text.trim).filter fun term => !term.isEmpty with
    | some term =>
        Text.Pattern.contains term r.username || Text.Pattern.contains term r.email
          || Text.Pattern.contains term r.fullName
    | none => true)
    && (match f.role with
      | some role => r.role == role
      | none => true)

/-- What a listing of accounts can be sorted by; anything else means by id. -/
def userSortKey (sortBy : String) (r : UserRow) : SortKey :=
  match sortBy with
  | "username" => .text r.username
  | "email" => .text r.email
  | "fullName" => .text r.fullName
  | "full_name" => .text r.fullName
  | "role" => .text (Named.name r.role)
  | "createdAt" => .text r.createdAt
  | "created_at" => .text r.createdAt
  | "lastLogin" => .ofText? r.lastLogin
  | "last_login" => .ofText? r.lastLogin
  | _ => .number r.id

/-- The accounts that a filter accepts. -/
def usersAccepted (f : UserFilter) (db : Database) : List UserRow := db.users.rows.filter f.accepts

/-- The accounts of a page. -/
def pageOfUsers (f : UserFilter) (p : PageRequest) (db : Database) : Read (List UserRow) :=
  pageOf p (sortedBy (userSortKey p.sortBy) p.order (db.usersAccepted f))

/-- The number of accounts. -/
def countUsers (db : Database) : Nat := db.users.rows.length

/-- The number of active accounts. -/
def countActiveUsers (db : Database) : Nat := db.users.rows.countP userIsActive

/-- The number of active accounts of a role. -/
def countActiveRole (role : Role) (db : Database) : Nat :=
  db.users.rows.countP fun r => userIsActive r && r.role == role

/-- The number of accounts of a username, apart from one account. -/
def countUsername (username : String) (except : Int) (db : Database) : Nat :=
  db.users.rows.countP fun r => r.username == Text.trim username && r.id != except

/-- The number of accounts of an address in any case, apart from one account. -/
def countEmail (email : String) (except : Int) (db : Database) : Nat :=
  db.users.rows.countP fun r =>
    Text.asciiLower r.email == Text.lower (Text.trim email) && r.id != except

/-! ## The table of logins

    A login belongs to a user and has a token of its own. -/

/-- Adds a login.  Its token must be new and its user must exist. -/
def insertLogin (s : LoginSession) (db : Database) : Except Failure (Unit × Database) :=
  if (db.logins.any fun r => r.token == s.token) || (db.users.find? s.userId).isNone then
    .error .refused
  else
    let row : LoginRow :=
      { token := s.token
        userId := s.userId
        createdAt := s.createdAt.stamp
        expiresAt := s.expiresAt.stamp
        ipAddress := s.ipAddress
        userAgent := s.userAgent }
    .ok ((), { db with logins := db.logins ++ [row] })

/-- The principal of a token whose user is active. -/
def principalOf (token : String) (db : Database) : Read (Option Principal) :=
  match db.logins.find? fun r => r.token == token with
  | none => .ok none
  | some login =>
      match db.users.find? login.userId with
      | none => .ok none
      | some user =>
          if user.isActive == 1 then do
            return some {
              userId := user.id
              username := user.username
              fullName := user.fullName
              role := user.role
              expiresAt := ← readTime login.expiresAt }
          else .ok none

/-- Removes the logins that satisfy a test; returns how many there were. -/
def deleteLogins (test : LoginRow → Bool) (db : Database) : Nat × Database :=
  (db.logins.countP test, { db with logins := db.logins.filter fun r => !test r })

end RobotMaze.Database
