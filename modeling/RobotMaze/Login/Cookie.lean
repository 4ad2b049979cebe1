import RobotMaze.Text.Base64Url
import RobotMaze.Text.Blank
import RobotMaze.Text.Split

/-! # The login cookie and its token

    A token is the written form of 32 random bytes.  A text that is not the form
    of 32 bytes is never looked up.

    * `loginToken` is the token of random bytes;
    * `Cookie.set`, `Cookie.clear` — header values that store and remove the
      cookie that holds it;
    * `Cookie.find?` — the first value of a name in a request's header that is
      not empty. -/

namespace RobotMaze

/-- The number of bytes of a token. -/
def tokenBytes : Nat := 32

/-- The token of random bytes. -/
def loginToken (bytes : List UInt8) : String := String.ofList (Text.Base64Url.encode bytes)

/-- Whether a text is the form of a token. -/
def isTokenShaped (text : String) : Bool :=
  match Text.Base64Url.decode? text.toList with
  | some bytes => bytes.length == tokenBytes
  | none => false

namespace Cookie

/-- The header value that stores a token for some milliseconds, counted in whole seconds. -/
def set (name token : String) (millis : Int) (secure : Bool) : String :=
  name ++ "=" ++ token ++ "; Path=/; HttpOnly; SameSite=Lax; Max-Age="
    ++ toString (max (Int.tdiv millis 1000) 0) ++ (if secure then "; Secure" else "")

/-- The header value that removes a cookie. -/
def clear (name : String) (secure : Bool) : String := set name "" 0 secure

/-- The value of a pair, if it has the name and is not empty. -/
def valueOf? (name : String) (pair : String) : Option String :=
  match Text.splitOnce? '=' (Text.trim pair) with
  | some (key, value) => if key = name ∧ value ≠ "" then some value else none
  | none => none

/-- The value of a cookie in a request's header. -/
def find? (header name : String) : Option String :=
  (Text.split ';' header).findSome? (valueOf? name)

end Cookie

end RobotMaze
