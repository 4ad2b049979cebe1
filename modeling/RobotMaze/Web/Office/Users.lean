import RobotMaze.Service.Users
import RobotMaze.Web.Office.Desk

/-! # The back office: users

    * `UserRoute` are the addresses below `/api/admin/users`;
    * `UserRoute.handlers` — what each of them does, by method. -/

namespace RobotMaze.Web.Office

/-- An address that has to do with users. -/
inductive UserRoute where
  | listing
  | search
  | one (id : String)
  | password (id : String)
  | reactivation (id : String)
  deriving DecidableEq, Repr

/-- The address of a path below `/api/admin/users`. -/
def UserRoute.ofPath? : List String → Option UserRoute
  | [] => some .listing
  | ["search"] => some .search
  | [id] => if id.isEmpty then none else some (.one id)
  | [id, "password"] => if id.isEmpty then none else some (.password id)
  | [id, "reactivate"] => if id.isEmpty then none else some (.reactivation id)
  | _ => none

/-- A page of the users that a search finds. -/
def listUsers : Handler := fun c r _ => do
  let page ← listing c r
  let search ← require (r.queried some "search")
  let role ← require (r.queried Named.ofName? "role")
  answer (Page.toJson User.toJson) (Users.page ⟨search, role⟩ page)

/-- The active users whose name holds a text. -/
def searchUsers : Handler := fun _ r _ => do
  let term ← require (r.queried some "searchTerm")
  answer (.list User.toJson) (Users.search (term.getD ""))

/-- A user. -/
def getUser (id : String) : Handler := fun _ _ _ => do
  answer User.toJson (Users.get (← require (pathId id)))

/-- A new account as the back office sends it: with a full name, or with a first and a last one. -/
def newUserOfFields (username email password : String) (first last fullName : Option String)
    (role : Role) (isActive : Option Bool) : NewUser :=
  { username
    email
    password
    fullName := some (fullName.getD (User.composeFullName first last username))
    role
    isActive := isActive.getD true }

/-- Decodes a new account. -/
def newUserDecoder : Json.Decoder NewUser :=
  (newUserOfFields
    <$> .required "username" .string
    <*> .required "email" .string
    <*> .required "password" .string
    <*> .optional "firstName" .string
    <*> .optional "lastName" .string
    <*> .optional "fullName" .string
    <*> .defaulted "role" Named.decoder .admin
    <*> .optional "isActive" .bool : Json.Record NewUser).decoder

/-- A user is made from the body. -/
def createUser : Handler := fun c r p => do
  let input ← require (r.decode newUserDecoder)
  answer User.toJson (Users.create input c.hashing (actor r p) c.now)

/-- The changes to an account as the back office sends them. -/
structure UserEdit where
  username : Option String
  email : Option String
  password : Option String
  first : Option String
  last : Option String
  fullName : Option String
  role : Option Role
  isActive : Option Bool

/-- Decodes the changes to an account. -/
def UserEdit.decoder : Json.Decoder UserEdit :=
  (UserEdit.mk
    <$> .optional "username" .string
    <*> .optional "email" .string
    <*> .optional "password" .string
    <*> .optional "firstName" .string
    <*> .optional "lastName" .string
    <*> .optional "fullName" .string
    <*> .optional "role" Named.decoder
    <*> .optional "isActive" .bool : Json.Record UserEdit).decoder

/-- The full name after the changes, if one is given or put together. -/
def UserEdit.newName (e : UserEdit) (currentUsername : String) : Option String :=
  e.fullName <|>
    if e.first.isSome || e.last.isSome then
      some (User.composeFullName e.first e.last (e.username.getD currentUsername))
    else none

/-- The changes to the account of someone who has a username. -/
def UserEdit.toChange (e : UserEdit) (currentUsername : String) : UserChange :=
  { username := e.username
    email := e.email
    password := e.password
    fullName := e.newName currentUsername
    role := e.role
    isActive := e.isActive }

/-- Changes a user. -/
def updateUser (id : String) : Handler := fun c r p => do
  let id ← require (pathId id)
  let edit ← require (r.decode UserEdit.decoder)
  let current ← perform (Users.get id)
  answer User.toJson
    (Users.update id (edit.toChange current.username) c.hashing (actor r p) c.now)

/-- Deactivates a user. -/
def deleteUser (id : String) : Handler := fun c r p => do
  let id ← require (pathId id)
  done (Users.delete id (actor r p) c.now) "User deleted successfully"

/-- Decodes a new password. -/
def newPasswordDecoder : Json.Decoder String :=
  (Json.Record.required "newPassword" .string).decoder

/-- Gives a user another password. -/
def changePassword (id : String) : Handler := fun c r p => do
  let id ← require (pathId id)
  let password ← require (r.decode newPasswordDecoder)
  done (Users.changePassword id password c.hashing (actor r p) c.now)
    "Password changed successfully"

/-- Activates a user again. -/
def reactivateUser (id : String) : Handler := fun c r p => do
  let id ← require (pathId id)
  answer User.toJson (Users.reactivate id (actor r p) c.now)

/-- What an address does, by method. -/
def UserRoute.handlers : UserRoute → List (Method × Handler)
  | .listing => [(.get, listUsers), (.post, createUser)]
  | .search => [(.get, searchUsers)]
  | .one id => [(.get, getUser id), (.put, updateUser id), (.delete, deleteUser id)]
  | .password id => [(.patch, changePassword id)]
  | .reactivation id => [(.post, reactivateUser id)]

end RobotMaze.Web.Office
