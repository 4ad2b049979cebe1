import RobotMaze.User.Basic

/-! # Login sessions and principals

    A `LoginSession` is what the store keeps of a login; a `Principal` is the
    user that a valid session stands for. -/

namespace RobotMaze

open Time (Instant)

/-- A stored login. -/
structure LoginSession where
  token : String
  userId : Int
  createdAt : Instant
  expiresAt : Instant
  ipAddress : Option String
  userAgent : Option String
  deriving DecidableEq, Repr

namespace LoginSession

/-- A login as an object. -/
def toJson (s : LoginSession) : Json :=
  .object [
    ("token", .string s.token),
    ("userId", .whole s.userId),
    ("createdAt", s.createdAt.toJson),
    ("expiresAt", s.expiresAt.toJson),
    ("ipAddress", .optional .string s.ipAddress),
    ("userAgent", .optional .string s.userAgent)]

/-- Decodes a login. -/
def decoder : Json.Decoder LoginSession :=
  (LoginSession.mk
    <$> .required "token" .string
    <*> .required "userId" .int64
    <*> .required "createdAt" Instant.decoder
    <*> .required "expiresAt" Instant.decoder
    <*> .optional "ipAddress" .string
    <*> .optional "userAgent" .string : Json.Record LoginSession).decoder

end LoginSession

/-- The user behind a request. -/
structure Principal where
  userId : Int
  username : String
  fullName : String
  role : Role
  expiresAt : Instant
  deriving DecidableEq, Repr

namespace Principal

/-- A session expires at the instant it names. -/
def isExpired (p : Principal) (now : Instant) : Bool := p.expiresAt ≤ now

/-- A principal as an object. -/
def toJson (p : Principal) : Json :=
  .object [
    ("userId", .whole p.userId),
    ("username", .string p.username),
    ("fullName", .string p.fullName),
    ("role", Named.toJson p.role),
    ("expiresAt", p.expiresAt.toJson)]

end Principal

end RobotMaze
