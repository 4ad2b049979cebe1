import RobotMaze.Named
import RobotMaze.Text.Blank
import RobotMaze.Text.Split
import RobotMaze.Time.Printer
import RobotMaze.Violation

/-! # Accounts and their passwords

    * `PasswordHash` — what is kept of a password;
    * `User` — an account of the back office, and the rules of its fields. -/

/-! ## Password hashes

    A hash is made from a password with a work factor and a salt that is drawn
    for it.  Of a password only its key matters: its bytes and a NUL, repeated in
    a circle, up to 72 bytes.

    * `PasswordHash.make` makes a hash, `PasswordHash.verify` tries a password;
    * `verify_make` — a password fits a hash exactly when the keys are equal;
    * `make_ne_of_salt` — with another salt the same password gets another hash. -/

namespace RobotMaze

/-- The number of bytes of a key. -/
def passwordKeyLength : Nat := 72

/-- The first `n` bytes of a list repeated in a circle. -/
def repeated (bytes : List UInt8) (n : Nat) : List UInt8 :=
  (List.replicate n bytes).flatten.take n

/-- The key of a password. -/
def passwordKey (password : String) : List UInt8 :=
  repeated (password.toUTF8.toList ++ [0]) passwordKeyLength

/-- How a hash is made: with a work factor, and with random bytes that are drawn for it. -/
structure Hashing where
  cost : Nat
  salt : List UInt8
  deriving DecidableEq, Repr

/-- What is stored of a password. -/
inductive PasswordHash where
  /-- A hash of a key, which tells how it was made. -/
  | ofKey (hashing : Hashing) (key : List UInt8)
  /-- A stored text that is no hash. -/
  | unusable (text : String)
  deriving DecidableEq, Repr

namespace PasswordHash

/-- The hash of an account of which no hash is known. -/
def empty : PasswordHash := .unusable ""

/-- The least work factor. -/
def minCost : Nat := 4

/-- The greatest work factor. -/
def maxCost : Nat := 31

/-- The hash of a password, made in a given way. -/
def ofPassword (hashing : Hashing) (password : String) : PasswordHash :=
  .ofKey hashing (passwordKey password)

/-- The hash of a password; none when the work factor is out of bounds. -/
def make (hashing : Hashing) (password : String) : Option PasswordHash :=
  if minCost ≤ hashing.cost ∧ hashing.cost ≤ maxCost then some (ofPassword hashing password)
  else none

/-- The key of a hash, if it is one. -/
def key? : PasswordHash → Option (List UInt8)
  | .ofKey _ key => some key
  | .unusable _ => none

/-- Whether a password fits; none fits a text that is no hash. -/
def verify (hash : PasswordHash) (password : String) : Bool :=
  match hash with
  | .ofKey _ key => passwordKey password == key
  | .unusable _ => false

/-- A hash that is made is the one of the password. -/
theorem make_ok {hashing : Hashing} {password : String} {hash : PasswordHash}
    (h : make hashing password = some hash) : hash = ofPassword hashing password := by
  simp only [make] at h
  split at h
  · exact (Option.some.inj h).symm
  · cases h

/-- A password fits a hash exactly when the keys are equal. -/
theorem verify_make {hashing : Hashing} {p q : String} {hash : PasswordHash}
    (h : make hashing p = some hash) : hash.verify q = true ↔ passwordKey q = passwordKey p := by
  obtain rfl := make_ok h
  simp [ofPassword, verify]

/-- Hashes with different salts are different, also those of one password. -/
theorem make_ne_of_salt {made made' : Hashing} (hsalt : made.salt ≠ made'.salt) {p q : String}
    {hash hash' : PasswordHash} (h : make made p = some hash) (h' : make made' q = some hash') :
    hash ≠ hash' := by
  obtain rfl := make_ok h
  obtain rfl := make_ok h'
  exact fun heq => hsalt (congrArg Hashing.salt (PasswordHash.ofKey.inj heq).1)

end PasswordHash

/-! ## Users — the accounts of the back office

    * `User.checkUsername`, `User.checkEmail`, `User.checkPassword` — the rules of
      the fields;
    * `User.toJson`, `User.decoder` — the JSON form, which leaves the password
      hash out. -/

open Time (Instant)

/-- What a user may do.  Both roles may enter the back office. -/
inductive Role where
  | admin
  | superAdmin
  deriving DecidableEq, Repr

namespace Role

instance : Named Role where
  all := [.admin, .superAdmin]
  name
    | .admin => "ADMIN"
    | .superAdmin => "SUPER_ADMIN"

/-- Whether a role opens the back office. -/
def entersBackOffice : Role → Bool
  | .admin => true
  | .superAdmin => true

end Role

/-- An account. -/
structure User where
  id : Int
  username : String
  passwordHash : PasswordHash
  email : String
  fullName : String
  role : Role
  isActive : Bool
  createdAt : Instant
  lastLogin : Option Instant
  createdBy : Option String
  deriving DecidableEq, Repr

namespace User

/-- A username without the white space around it; its length must lie within bounds. -/
def checkUsername (username : String) : Except Violation String :=
  let username := Text.trim username
  if username.isEmpty then .error .usernameMissing
  else if username.length < minUsername ∨ maxUsername < username.length then
    .error .usernameLength
  else .ok username

/-- Whether a domain has two labels at least, none of them empty at either end. -/
def isDomain (domain : List Char) : Bool :=
  2 ≤ ((Text.splitChars '.' domain).filter fun label => !label.isEmpty).length
    && domain.head? != some '.' && domain.getLast? != some '.'

/-- Whether a text has the form of an address: a local part, one `@`, a domain with a point, and no
    white space. -/
def isEmail (email : List Char) : Bool :=
  let user := email.takeWhile (· ≠ '@')
  match email.dropWhile (· ≠ '@') with
  | [] => false
  | _ :: domain =>
      !user.isEmpty && !domain.contains '@' && !email.any Text.isBlank && isDomain domain

/-- An address without the white space around it. -/
def checkEmail (email : String) : Except Violation String :=
  let email := Text.trim email
  if email.isEmpty then .error .emailMissing
  else if isEmail email.toList then .ok email
  else .error .emailMalformed

/-- A password must not be too short; white space counts. -/
def checkPassword (password : String) : Except Violation Unit :=
  if password.length < minPassword then .error .passwordTooShort else .ok ()

/-- The texts that hold more than white space, trimmed. -/
def namesGiven (names : List (Option String)) : List String :=
  (names.filterMap fun name => name.map Text.trim).filter fun name => !name.isEmpty

/-- First and last name with a blank between them; the username where both are missing. -/
def composeFullName (first last : Option String) (username : String) : String :=
  match namesGiven [first, last] with
  | [] => Text.trim username
  | names => " ".intercalate names

/-- An account as an object, without its password hash. -/
def toJson (u : User) : Json :=
  .object [
    ("id", .whole u.id),
    ("username", .string u.username),
    ("email", .string u.email),
    ("fullName", .string u.fullName),
    ("role", Named.toJson u.role),
    ("isActive", .bool u.isActive),
    ("createdAt", u.createdAt.toJson),
    ("lastLogin", .optional Instant.toJson u.lastLogin),
    ("createdBy", .optional .string u.createdBy)]

/-- An account from its JSON fields; its password hash is empty. -/
def ofFields (id : Int) (username email fullName : String) (role : Role) (isActive : Bool)
    (createdAt : Instant) (lastLogin : Option Instant) (createdBy : Option String) : User :=
  { id, username, passwordHash := .empty, email, fullName, role, isActive, createdAt, lastLogin,
    createdBy }

/-- Decodes an account. -/
def decoder : Json.Decoder User :=
  (ofFields
    <$> .required "id" .int64
    <*> .required "username" .string
    <*> .required "email" .string
    <*> .required "fullName" .string
    <*> .required "role" Named.decoder
    <*> .required "isActive" .bool
    <*> .required "createdAt" Instant.decoder
    <*> .optional "lastLogin" Instant.decoder
    <*> .optional "createdBy" .string : Json.Record User).decoder

end User

end RobotMaze
