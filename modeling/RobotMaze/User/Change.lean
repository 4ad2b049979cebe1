import RobotMaze.User.Basic

/-! # New users and changes to users

    * `NewUser` is what an account is made from, `NewUser.check` looks at its
      fields;
    * `UserChange` names the fields of an account that get a new value; its
      written form never holds a password. -/

namespace RobotMaze

/-- The input for a new account. -/
structure NewUser where
  username : String
  email : String
  password : String
  /-- The username stands in for a name that is missing or blank. -/
  fullName : Option String
  role : Role
  isActive : Bool
  deriving DecidableEq, Repr

namespace NewUser

/-- Decodes the input for a new account. -/
def decoder : Json.Decoder NewUser :=
  (NewUser.mk
    <$> .required "username" .string
    <*> .required "email" .string
    <*> .required "password" .string
    <*> .omittable "fullName" .string
    <*> .required "role" Named.decoder
    <*> .defaulted "isActive" .bool true : Json.Record NewUser).decoder

/-- A name without the white space around it, unless it is blank. -/
def cleanName (name : Option String) : Option String :=
  (name.map Text.trim).filter fun name => !name.isEmpty

/-- The input with username, email and full name trimmed; the first rule that it breaks is
    reported. -/
def check (u : NewUser) : Except Violation NewUser := do
  let username ← User.checkUsername u.username
  let email ← User.checkEmail u.email
  User.checkPassword u.password
  return { u with username, email, fullName := some ((cleanName u.fullName).getD username) }

end NewUser

/-- The fields of an account that get a new value. -/
structure UserChange where
  username : Option String := none
  email : Option String := none
  password : Option String := none
  fullName : Option String := none
  role : Option Role := none
  isActive : Option Bool := none
  deriving DecidableEq, Repr

namespace UserChange

/-- The new password; a blank one leaves the old one in place. -/
def newPassword (c : UserChange) : Option String :=
  c.password.filter fun p => !Text.isBlankText p

/-- The named fields as an object, without the password. -/
def toJson (c : UserChange) : Json :=
  .object (List.flatten [
    (c.username.map fun v => ("username", Json.string v)).toList,
    (c.email.map fun v => ("email", Json.string v)).toList,
    (c.fullName.map fun v => ("fullName", Json.string v)).toList,
    (c.role.map fun v => ("role", Named.toJson v)).toList,
    (c.isActive.map fun v => ("isActive", Json.bool v)).toList])

/-- Decodes the named fields, here with the password. -/
def decoder : Json.Decoder UserChange :=
  (UserChange.mk
    <$> .optional "username" .string
    <*> .optional "email" .string
    <*> .optional "password" .string
    <*> .optional "fullName" .string
    <*> .optional "role" Named.decoder
    <*> .optional "isActive" .bool : Json.Record UserChange).decoder

/-- The fields with username and email trimmed; the first rule that they break is reported. -/
def check (c : UserChange) : Except Violation UserChange := do
  let username ← c.username.mapM User.checkUsername
  let email ← c.email.mapM User.checkEmail
  if let some password := c.newPassword then
    User.checkPassword password
  return { c with username, email }

end UserChange

end RobotMaze
