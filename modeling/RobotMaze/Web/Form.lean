import RobotMaze.Json.Decoder
import RobotMaze.Text.LowerCase
import RobotMaze.Text.Number
import RobotMaze.Text.Percent
import RobotMaze.Web.Request
import RobotMaze.Web.Response

/-! # What a request says

    * `MediaType` — what its body is announced as;
    * `Form` — its fields, and those of its address. -/

/-! ## Media types — what a body is announced as

    A media type has a kind, a subtype with an optional suffix after its last
    plus sign, and parameters.  Cases do not matter.

    * `isJson` — whether a type announces JSON;
    * `isForm` — whether a type announces a form. -/

namespace RobotMaze.Web.MediaType

/-- Whether a character may stand in a media type. -/
def isTypeChar (c : Char) : Bool := isTokenChar c && c != '*'

/-- Whether a character may stand between quotes. -/
def isQuotable (c : Char) : Bool := 31 < c.toNat && c.toNat ≠ 127

/-- A place among parameters. -/
inductive Place where
  | beforeKey
  | key
  | beforeValue
  | value
  | afterQuote
  | quoted
  | afterQuoted
  deriving DecidableEq, Repr

/-- The place after a character, unless the character must not stand there. -/
def Place.next? (c : Char) : Place → Option Place
  | .beforeKey => if c = ' ' then some .beforeKey else if isTypeChar c then some .key else none
  | .key => if c = '=' then some .beforeValue else if isTypeChar c then some .key else none
  | .beforeValue =>
      if c = '"' then some .afterQuote else if isTypeChar c then some .value else none
  | .value => if c = ';' then some .beforeKey else if isTypeChar c then some .value else none
  | .afterQuote => if isQuotable c then some .quoted else none
  | .quoted => if c = '"' then some .afterQuoted else if isQuotable c then some .quoted else none
  | .afterQuoted =>
      if c = ' ' then some .afterQuoted else if c = ';' then some .beforeKey else none

/-- Whether parameters may end at a place. -/
def Place.isLast : Place → Bool
  | .key => false
  | .afterQuote => false
  | .quoted => false
  | _ => true

/-- Whether a text is a list of parameters. -/
def areParameters (cs : List Char) : Bool :=
  match cs.foldlM (fun place c => Place.next? c place) .beforeKey with
  | some place => place.isLast
  | none => false

/-- The parts of a subtype before and after its last plus sign, the second one empty if there is no
    such sign behind the first character. -/
def splitSuffix (subtype : List Char) : List Char × List Char :=
  let suffix := (subtype.reverse.takeWhile (· ≠ '+')).reverse
  let rest := subtype.take (subtype.length - suffix.length - 1)
  if rest.isEmpty then (subtype, []) else (rest, suffix)

/-- Whether a media type announces JSON, by its subtype or its suffix. -/
def isJson (type : String) : Bool :=
  let cs := (Text.asciiLower type).toList
  let kind := cs.takeWhile isTypeChar
  match cs.dropWhile isTypeChar with
  | '/' :: rest =>
      let (subtype, suffix) := splitSuffix (rest.takeWhile isTypeChar)
      let isClosed :=
        match rest.dropWhile isTypeChar with
        | [] => true
        | ';' :: parameters => areParameters parameters
        | _ => false
      kind == "application".toList && (subtype == "json".toList || suffix == "json".toList)
        && isClosed
  | _ => false

/-- The media type of forms. -/
def form : String := "application/x-www-form-urlencoded"

/-- Whether a media type announces a form. -/
def isForm (type : String) : Bool := type.startsWith form

end RobotMaze.Web.MediaType

/-! ## What a request says

    A query or a form is a list of fields, a body may also be JSON, and a path
    may hold the id of something.

    * `Form.read` is the value of a field of some type, which must not come
      twice;
    * `Request.decode` reads the body as JSON, `Request.form` as a form;
    * `pathText`, `pathId` read a part of the path. -/

namespace RobotMaze.Web

/-! ## Fields -/

/-- The fields of a query or a form. -/
abbrev Form := List (String × String)

namespace Form

/-- The value of a field of some type; a field that comes twice or does not read is refused. -/
def read {α : Type} (refusal : Refusal) (ofText? : String → Option α) (form : Form)
    (name : String) : Except Refusal (Option α) :=
  match form.filter fun field => field.1 == name with
  | [] => .ok none
  | [(_, text)] =>
      match ofText? text with
      | some a => .ok (some a)
      | none => .error refusal
  | _ => .error refusal

end Form

namespace Request

/-- The fields of the query. -/
def queryForm (r : Request) : Form := Text.Percent.fields r.query

/-- The value of a field of the query. -/
def queried {α : Type} (r : Request) (ofText? : String → Option α) (name : String) :
    Except Refusal (Option α) :=
  Form.read .query ofText? r.queryForm name

/-- The body as a form. -/
def form (r : Request) : Except Refusal Form :=
  if (r.text? "content-type").any MediaType.isForm then .ok (Text.Percent.fields r.body)
  else .error .notAForm

/-- The refusal for a body with a fault. -/
def refusalOfFault : Json.Fault → Refusal
  | .malformed => .malformed
  | .mismatch => .mismatch

/-- The body as JSON. -/
def decode {α : Type} (r : Request) (d : Json.Decoder α) : Except Refusal α :=
  if (r.text? "content-type").any MediaType.isJson then
    (Json.decode d r.body).mapError refusalOfFault
  else .error .contentType

end Request

/-! ## Parts of the path -/

/-- A part of the path as text. -/
def pathText (part : String) : Except Refusal String :=
  match Text.Percent.text? part with
  | some text => .ok text
  | none => .error .path

/-- A part of the path as an id. -/
def pathId (part : String) : Except Refusal Int := do
  match Text.int64? (← pathText part) with
  | some id => return id
  | none => throw .path

end RobotMaze.Web
