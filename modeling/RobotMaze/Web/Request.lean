import RobotMaze.Address
import RobotMaze.Text.LowerCase

/-! # Requests

    A request has a method, an address, header fields and a body.  The names of
    header fields do not distinguish cases; a value can be read when it is plain
    ASCII text.

    * `Request.header?` is the first field of a name, `Request.texts` are the
      readable ones of all of them. -/

namespace RobotMaze.Web

/-- What a request wants to do. -/
inductive Method where
  | get
  | head
  | post
  | put
  | patch
  | delete
  | options
  | other (name : String)
  deriving DecidableEq, Repr

namespace Method

/-- The written name of a method. -/
def name : Method → String
  | .get => "GET"
  | .head => "HEAD"
  | .post => "POST"
  | .put => "PUT"
  | .patch => "PATCH"
  | .delete => "DELETE"
  | .options => "OPTIONS"
  | .other name => name

/-- The method of a name, which must match exactly. -/
def ofName (name : String) : Method :=
  match name with
  | "GET" => .get
  | "HEAD" => .head
  | "POST" => .post
  | "PUT" => .put
  | "PATCH" => .patch
  | "DELETE" => .delete
  | "OPTIONS" => .options
  | name => .other name

end Method

/-- Whether a character may stand in the name of a header field or a method. -/
def isTokenChar (c : Char) : Bool :=
  c.isAlphanum || "!#$%&'*+-.^_\x60|~".toList.contains c

/-- Whether a text can be the name of a header field. -/
def isFieldName (name : String) : Bool := !name.isEmpty && name.toList.all isTokenChar

/-- Whether a text can be the value of a header field: no control characters but the tabulator. -/
def isFieldValue (value : String) : Bool :=
  value.toList.all fun c => (32 ≤ c.toNat && c.toNat ≠ 127) || c = '\t'

/-- Whether a value can be read as text. -/
def isPlain (value : String) : Bool :=
  value.toList.all fun c => (32 ≤ c.toNat && c.toNat < 127) || c = '\t'

/-- A request. -/
structure Request where
  method : Method
  path : String
  /-- The part of the address after the question mark. -/
  query : String := ""
  fields : List (String × String) := []
  body : String := ""
  /-- The machine at the other end of the connection. -/
  peer : Option IpAddress := none
  deriving Repr

namespace Request

/-- The values of the fields of a name, which is in lower case. -/
def values (r : Request) (name : String) : List String :=
  (r.fields.filter fun field => Text.asciiLower field.1 == name).map Prod.snd

/-- The value of the first field of a name. -/
def header? (r : Request) (name : String) : Option String := (r.values name).head?

/-- The first field of a name, if it can be read. -/
def text? (r : Request) (name : String) : Option String := (r.header? name).filter isPlain

/-- All fields of a name that can be read. -/
def texts (r : Request) (name : String) : List String := (r.values name).filter isPlain

end Request

end RobotMaze.Web
