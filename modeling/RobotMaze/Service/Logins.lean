import RobotMaze.Login.Cookie
import RobotMaze.Service.Users

/-! # Logins as a service

    A login gives out a token that stands for its user until it expires.

    * `logIn` checks a password and opens a login; a rejected attempt is
      recorded as well;
    * `resolve` is the principal of a token, `logOut` ends a login;
    * `purge` removes the logins that have expired. -/

namespace RobotMaze.Logins

open Time (Instant)

/-- The name of logins in the audit log. -/
def resource : String := "AUTH"

/-- The same client under another name. -/
def actAs (a : Actor) (username : String) : Actor := { a with username := some username }

/-- Opens a login that lasts so many seconds. -/
def openFor (u : User) (token : String) (seconds : Int) (actor : Actor) (now : Instant) :
    Op LoginSession := do
  match now.addSeconds? seconds with
  | none => throw (.rejected .lifetimeOutOfRange)
  | some expiresAt =>
      let session : LoginSession :=
        { token
          userId := u.id
          createdAt := now
          expiresAt
          ipAddress := actor.ipAddress
          userAgent := actor.userAgent }
      Op.change (Database.insertLogin session)
      return session

/-- Ends a login; says whether there was one. -/
def close (token : String) : Op Bool := do
  let n ← Op.change fun db => .ok (db.deleteLogins fun r => r.token == token)
  return 0 < n

/-- The principal of a token, if it has the form of one, its login has not expired and its user is
    active.  An expired login is removed. -/
def resolve (token : String) (now : Instant) : Op (Option Principal) := do
  if !isTokenShaped token then
    return none
  match ← Op.queryRead (Database.principalOf token) with
  | none => return none
  | some principal =>
      if principal.isExpired now then
        let _ ← close token
        return none
      else return some principal

/-- Removes the logins that have expired. -/
def purge (now : Instant) : Op Nat :=
  Op.change fun db => .ok (db.deleteLogins fun r => r.expiresAt ≤ now.stamp)

/-- Checks a password and opens a login. -/
def logIn (username password token : String) (seconds : Int) (actor : Actor) (now : Instant) :
    Op (User × LoginSession) := do
  let attempted := Text.trim username
  let named := actAs actor attempted
  match ← Op.attempt (Users.authenticate attempted password now) with
  | .error .badCredentials =>
      let event := (named.event "Login failed" .login resource).failed Failure.badCredentials.message
      AuditLog.note event now
      throw .badCredentials
  | .error e => throw e
  | .ok u =>
      let session ← openFor u token seconds actor now
      AuditLog.note ((named.event "User logged in" .login resource).onResource (toString u.id)
        u.username) now
      return (u, session)

/-- Ends the login of a token, and records that if the token stood for a user. -/
def logOut (token : String) (actor : Actor) (now : Instant) : Op Unit := do
  let principal ← resolve token now
  let _ ← close token
  if let some p := principal then
    AuditLog.note (((actAs actor p.username).event "User logged out" .logout resource).onResource
      (toString p.userId) p.username) now

end RobotMaze.Logins
